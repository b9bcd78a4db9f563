import Qualify.Text.CaseTable

/-!
# Lower and upper case

Full case mapping of Unicode 14. Two rules look beyond a single code point: the capital I with a
dot above becomes an i and a combining dot, and a capital sigma at the end of a word becomes the
final form.
-/

namespace Qualify.Text

def isCased (c : Char) : Bool := casedRanges.covers c.toNat
def isCaseIgnorable (c : Char) : Bool := caseIgnorableRanges.covers c.toNat

/-- Lower case of a code point as one code point. -/
def lowerPoint (n : Nat) : Nat := if n = 0x130 then 0x69 else mapByRuns lowerRuns n

/-- Upper case of a code point as one code point, the first one where it takes more. -/
def upperPoint (n : Nat) : Nat :=
  match upperExpansions.lookup n with
  | some (m :: _) => m
  | _ => mapByRuns upperRuns n

/-- Lower case of one character as one character. -/
def lowerChar (c : Char) : Char := Char.ofNat (lowerPoint c.toNat)

/-- Is the first character that the context of a sigma does not look past a cased one? -/
def metCased : List Char → Bool
  | [] => false
  | c :: cs => if isCaseIgnorable c then metCased cs else isCased c

/-- Lower case of one character with its neighbours, those before it nearest first. -/
def lowerInContext (before : List Char) (c : Char) (after : List Char) : List Char :=
  if c = '\u03A3' then [if metCased before && !metCased after then '\u03C2' else '\u03C3']
  else if c = '\u0130' then ['i', '\u0307']
  else [lowerChar c]

/-- Lower case of the characters that follow those of the first list, which is nearest first. -/
def lowerAfter (before : List Char) : List Char → List Char
  | [] => []
  | c :: cs => lowerInContext before c cs ++ lowerAfter (c :: before) cs

def lower (cs : List Char) : List Char := lowerAfter [] cs

/-- Upper case of one character. -/
def upperChar (c : Char) : List Char :=
  match upperExpansions.lookup c.toNat with
  | some cs => cs.map Char.ofNat
  | none => [Char.ofNat (mapByRuns upperRuns c.toNat)]

def upper (cs : List Char) : List Char := cs.flatMap upperChar

end Qualify.Text

def String.lowerCase (s : String) : String := String.ofList (Qualify.Text.lower s.toList)

def String.upperCase (s : String) : String := String.ofList (Qualify.Text.upper s.toList)
