import Qualify.Pattern.Basic

/-!
# Flags of patterns

Flags hold for a part of a pattern: a group can add some and take some away, and what they say
together is the mode in which the characters of that part are tested.
-/

namespace Qualify.Pattern

/-- The flags in force. -/
structure Flags where
  ignoreCase : Bool := false
  multiline : Bool := false
  dotAll : Bool := false
  verbose : Bool := false
  template : Bool := false
  /-- Is the alphabet the basic one, by a flag? -/
  basic : Bool := false
  /-- Is the alphabet the full one, by a flag? -/
  full : Bool := false
deriving DecidableEq

namespace Flags

def ofChar? : Char → Option Flags
  | 'i' => some { ignoreCase := true }
  | 'm' => some { multiline := true }
  | 's' => some { dotAll := true }
  | 'x' => some { verbose := true }
  | 't' => some { template := true }
  | 'a' => some { basic := true }
  | 'u' => some { full := true }
  | _ => none

/-- Is the flag one of those that choose the alphabet? -/
def choosesAlphabet (f : Flags) : Bool := f.basic || f.full

def or (f g : Flags) : Flags where
  ignoreCase := f.ignoreCase || g.ignoreCase
  multiline := f.multiline || g.multiline
  dotAll := f.dotAll || g.dotAll
  verbose := f.verbose || g.verbose
  template := f.template || g.template
  basic := f.basic || g.basic
  full := f.full || g.full

def without (f g : Flags) : Flags where
  ignoreCase := f.ignoreCase && !g.ignoreCase
  multiline := f.multiline && !g.multiline
  dotAll := f.dotAll && !g.dotAll
  verbose := f.verbose && !g.verbose
  template := f.template && !g.template
  basic := f.basic && !g.basic
  full := f.full && !g.full

/-- Do two sets of flags have one in common? -/
def meets (f g : Flags) : Bool :=
  (f.ignoreCase && g.ignoreCase) || (f.multiline && g.multiline) || (f.dotAll && g.dotAll) ||
    (f.verbose && g.verbose) || (f.template && g.template) || (f.basic && g.basic) ||
    (f.full && g.full)

/-- The flags inside a group that adds and takes away some. A new alphabet replaces the old one. -/
def inside (f added removed : Flags) : Flags :=
  let f := if added.choosesAlphabet then { f with basic := false, full := false } else f
  (f.or added).without removed

def mode (f : Flags) : Mode where
  folding := if !f.ignoreCase then .none else if f.basic then .basic else .full
  basicClasses := f.basic
  multiline := f.multiline
  dotAll := f.dotAll

end Flags

end Qualify.Pattern
