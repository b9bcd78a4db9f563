import Qualify.Pattern.Escape

/-!
# What opens a group

An opening bracket starts a group with or without a name, an assertion, a condition, a comment, or
flags.
-/

namespace Qualify.Pattern

/-- Opens a group, which gets the next number. -/
def openGroup (name : Option String) : Reading Nat := do
  let s ← get
  let n := s.groups.length
  match name with
  | none => set { s with groups := s.groups ++ [none] }
  | some name =>
    if (s.names.lookup name).isSome then malformed
    set { s with groups := s.groups ++ [none], names := (name, n) :: s.names }
  return n

def closeGroup (n : Nat) (w : Width) : Reading Unit :=
  modify fun s => { s with groups := s.groups.set n (some w) }

/-- Is a text a name: a letter or underscore, then letters, digits and underscores? -/
def isName (cs : List Char) : Bool :=
  cs.all Text.isWordChar && cs.head?.any fun c => !Text.isDigit c

/-- The name of a group up to a closing character. -/
def readName (close : Char) : Reading String := do
  let cs ← takeUntil close
  if isName cs then return String.ofList cs else malformed

/-- A number in digits, with underscores between them, a sign before them and blanks around. -/
def groupNumber? (cs : List Char) : Option Nat :=
  let (negative, cs) := match Text.trim cs with
    | '-' :: cs => (true, cs)
    | '+' :: cs => (false, cs)
    | cs => (false, cs)
  let digits := cs.filter (· != '_')
  let paired := (cs.zip cs.tail).any fun p => p.1 == '_' && p.2 == '_'
  if negative || cs.head? = some '_' || cs.getLast? = some '_' || paired || digits.isEmpty then none
  else (digits.mapM Text.decimalValue?).map Text.numberOfDigits

/-- The group that a condition asks for. -/
def conditionGroup : Reading Nat := do
  let cs ← takeUntil ')'
  if isName cs then
    match (← get).names.lookup (String.ofList cs) with
    | some n => return n
    | none => malformed
  else match groupNumber? cs with
    | none | some 0 => malformed
    | some n =>
      modify fun s => { s with asked := n :: s.asked }
      return n

/-- Flags up to a character that ends them, which is given too. -/
def readFlags (mayChooseAlphabet : Bool) :
    (fuel : Nat) → (first : Token) → Flags → Reading (Flags × Char)
  | 0, _, _ => malformed
  | fuel + 1, t, flags => do
    match t with
    | .plain c =>
      match Flags.ofChar? c with
      | none => malformed
      | some f =>
        let flags := flags.or f
        if f.choosesAlphabet && (!mayChooseAlphabet || (flags.basic && flags.full)) then malformed
        match ← take with
        | none => malformed
        | some (.plain c) =>
          if c = ')' || c = '-' || c = ':' then return (flags, c)
          else readFlags mayChooseAlphabet fuel (.plain c) flags
        | some (.escaped _) => malformed
    | .escaped _ => malformed

/-- Inline flags: those for all of the pattern, or those that a group adds and takes away. -/
def readInlineFlags (first : Char) : Reading (Flags ⊕ (Flags × Flags)) := do
  let fuel := (← get).rest.length + 1
  let (added, close) ← if first = '-' then pure (({} : Flags), '-')
    else readFlags true fuel (.plain first) {}
  if close = ')' then return .inl added
  if added.template then malformed
  let removed ←
    if close = '-' then
      match ← take with
      | some t =>
        let (removed, close) ← readFlags false fuel t {}
        if close = ':' then pure removed else malformed
      | none => malformed
    else pure {}
  if removed.template || added.meets removed then malformed
  return .inr (added, removed)

/-- Takes the bracket that closes a group. -/
def closeBracket : Reading Unit := do
  if !(← accept ')') then malformed

/-- Skips the rest of a comment in brackets. -/
def skipComment : Reading Unit := do
  let s ← get
  let rest := s.rest.dropWhile (· ≠ .plain ')')
  if rest.isEmpty then malformed else set { s with rest := rest.tail }

/-- Skips the rest of a line. -/
def skipLine : Reading Unit :=
  modify fun s => { s with rest := (s.rest.dropWhile (· ≠ .plain '\n')).tail }

/-- What an opening bracket starts. -/
inductive Opening where
  /-- Nothing, as behind a comment. -/
  | nothing
  | item (i : Item)
  | flags (f : Flags)
  | group (name : Option String)
  | plainGroup (added removed : Flags)
  | atomic
  | look (forward negated : Bool)
  | condition (n : Nat)

/-- What stands behind an opening bracket. -/
def readOpening (flags : Flags) : Reading Opening := do
  if !(← accept '?') then return .group none
  match ← take with
  | some (.plain 'P') =>
    if ← accept '<' then return .group (some (← readName '>'))
    if ← accept '=' then
      let name ← readName ')'
      match (← get).names.lookup name with
      | some n => return .item (← reference flags n)
      | none => malformed
    malformed
  | some (.plain ':') => return .plainGroup {} {}
  | some (.plain '#') =>
    skipComment
    return .nothing
  | some (.plain '=') => return .look true false
  | some (.plain '!') => return .look true true
  | some (.plain '<') =>
    match ← take with
    | some (.plain '=') => return .look false false
    | some (.plain '!') => return .look false true
    | _ => malformed
  | some (.plain '(') =>
    let n ← conditionGroup
    if (← get).behind.isSome then checkReference n
    return .condition n
  | some (.plain '>') => return .atomic
  | some (.plain c) =>
    match ← readInlineFlags c with
    | .inl f => return .flags f
    | .inr (added, removed) => return .plainGroup added removed
  | _ => malformed

/-- An assertion about what comes before, which needs a fixed width. -/
def behindItem (negated : Bool) (i : Item) : Reading Item := do
  if i.width.least ≠ i.width.most || Width.repeatLimit < i.width.least then
    modify fun s => { s with unusable := true }
  return { pattern := .behind negated i.width.least i.pattern }

end Qualify.Pattern
