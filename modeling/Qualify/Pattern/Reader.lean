import Qualify.Pattern.Opening

/-!
# Reading patterns

Patterns are written in the usual notation: sets in square brackets, repetitions with an optional
mark for their greed, groups with or without names, assertions, and inline flags. A pattern that is
not well-formed matches nothing; counts that are too large are failures.
-/

namespace Qualify.Pattern

/-! ## Sets -/

def setItem : Token → Reading SetItem
  | .plain c => return .point c.toNat
  | .escaped c => setEscape c

/-- The items of a set up to its closing bracket, which may be the first item itself. -/
def setItems : (fuel : Nat) → (first : Bool) → Reading (List SetItem)
  | 0, _ => malformed
  | fuel + 1, first => do
    match ← take with
    | none => malformed
    | some t =>
      if t = .plain ']' && !first then return []
      let low ← setItem t
      if ← accept '-' then
        match ← take with
        | none => malformed
        | some (.plain ']') => return [low, .point '-'.toNat]
        | some t =>
          match low, ← setItem t with
          | .point a, .point b =>
            if b < a then malformed else return .range a b :: (← setItems fuel false)
          | _, _ => malformed
      else return low :: (← setItems fuel false)

/-- A set behind its opening bracket. -/
def readSet (flags : Flags) : Reading Item := do
  let negated ← accept '^'
  let items ← setItems ((← get).rest.length + 1) true
  let test : CharTest := match items.eraseDups with
    | [.point n] => .point flags.mode.folding n negated
    | items => .set flags.mode items negated
  return { pattern := .one test, width := .one }

/-! ## Repetitions -/

/-- A bound of a repetition. -/
def bound (cs : List Char) : Reading (Option Nat) := do
  if cs.isEmpty then return none
  else if digitLimit < cs.length then throw (.failed (.longNumeral cs.length))
  else
    let n := numberIn 10 cs
    if Width.repeatLimit ≤ n then throw (.failed .repetition) else return some n

/-- The bounds of a repetition behind an opening brace, none if it is no repetition. -/
def bounds : Reading (Option (Nat × Option Nat)) := do
  let start ← get
  if (← peek) = some (.plain '\x7d') then return none
  let low ← takeWhile Char.isDigit start.rest.length
  let high ← if ← accept ',' then takeWhile Char.isDigit start.rest.length else pure low
  if ← accept '\x7d' then
    let least := (← bound low).getD 0
    let most ← bound high
    if most.any (· < least) then malformed else return some (least, most)
  else
    set start
    return none

/-- The mark for the greed of a repetition. -/
def readGreed : Reading Greed := do
  if ← accept '?' then return .lazy
  if ← accept '+' then return .possessive
  return .greedy

/-- A repetition of the last item. -/
def readRepetition (least : Nat) (most : Option Nat) : List Item → Reading (List Item)
  | [] => malformed
  | item :: items => do
    if item.kind ≠ .other then malformed
    let greed ← readGreed
    if (← get).flags.template then modify fun s => { s with unusable := true }
    return { pattern := .rep least most greed item.pattern
             width := item.width.repeated least most, kind := .repetition } :: items

/-! ## Sequences and alternatives -/

mutual

/-- Alternatives. At the outermost level the first of them may start with flags for the pattern. -/
def readAlternatives (outermost first : Bool) (flags : Flags) : (fuel : Nat) → Reading Item
  | 0 => malformed
  | fuel + 1 => do
    let s ← get
    let flags := if outermost then s.flags else flags
    let i := Item.ofReversed (← readSequence (outermost && first) flags [] fuel)
    if ← accept '|' then
      let j ← readAlternatives outermost false flags fuel
      return { pattern := .alt i.pattern j.pattern, width := i.width.either j.width }
    else return { i with kind := .other }
termination_by structural fuel => fuel

/-- A sequence behind the items read so far, the last one first. -/
def readSequence (mayStart : Bool) (flags : Flags) (items : List Item) :
    (fuel : Nat) → Reading (List Item)
  | 0 => malformed
  | fuel + 1 => do
    match ← peek with
    | none | some (.plain '|') | some (.plain ')') => return items
    | some t =>
      let _ ← take
      match t with
      | .escaped c => readSequence mayStart flags ((← itemEscape flags c) :: items) fuel
      | .plain c =>
        if flags.verbose && Class.blank.holdsBasic c then readSequence mayStart flags items fuel
        else if flags.verbose && c = '#' then
          skipLine
          readSequence mayStart flags items fuel
        else match c with
          | '[' => readSequence mayStart flags ((← readSet flags) :: items) fuel
          | '?' => readSequence mayStart flags (← readRepetition 0 (some 1) items) fuel
          | '*' => readSequence mayStart flags (← readRepetition 0 none items) fuel
          | '+' => readSequence mayStart flags (← readRepetition 1 none items) fuel
          | '\x7b' =>
            match ← bounds with
            | none => readSequence mayStart flags (literal flags c.toNat :: items) fuel
            | some (least, most) =>
              readSequence mayStart flags (← readRepetition least most items) fuel
          | '.' =>
            readSequence mayStart flags
              ({ pattern := .one (.any flags.dotAll), width := .one } :: items) fuel
          | '^' =>
            let a := if flags.multiline then Anchor.lineStart else .textStart
            readSequence mayStart flags (anchorItem a :: items) fuel
          | '$' =>
            let a := if flags.multiline then Anchor.lineEnd else .lastLineEnd
            readSequence mayStart flags (anchorItem a :: items) fuel
          | '(' =>
            match ← readOpening flags with
            | .nothing => readSequence mayStart flags items fuel
            | .item i => readSequence mayStart flags (i :: items) fuel
            | .flags f =>
              if !mayStart || !items.isEmpty then malformed
              let s ← get
              let all := s.flags.or f
              modify fun s => { s with flags := all }
              readSequence mayStart all items fuel
            | opening => readSequence mayStart flags ((← readGroup flags opening fuel) :: items) fuel
          | c => readSequence mayStart flags (literal flags c.toNat :: items) fuel
termination_by structural fuel => fuel

/-- A group behind what opens it. -/
def readGroup (flags : Flags) (opening : Opening) : (fuel : Nat) → Reading Item
  | 0 => malformed
  | fuel + 1 => do
    match opening with
    | .look forward negated =>
      let outer := (← get).behind
      if !forward && outer.isNone then
        modify fun s => { s with behind := some s.groups.length }
      let i ← readAlternatives false false flags fuel
      if !forward then modify fun s => { s with behind := outer }
      closeBracket
      if forward then return { pattern := .ahead negated i.pattern } else behindItem negated i
    | .condition n =>
      let i := Item.ofReversed (← readSequence false flags [] fuel)
      let j ←
        if ← accept '|' then pure (Item.ofReversed (← readSequence false flags [] fuel))
        else pure { pattern := .empty }
      closeBracket
      return { pattern := .ifGroup n i.pattern j.pattern, width := i.width.either j.width }
    | .group name =>
      let n ← openGroup name
      let i ← readAlternatives false false flags fuel
      closeBracket
      closeGroup n i.width
      return { pattern := .group n i.pattern, width := i.width }
    | .plainGroup added removed =>
      let i ← readAlternatives false false (flags.inside added removed) fuel
      closeBracket
      return i
    | .atomic =>
      let i ← readAlternatives false false flags fuel
      closeBracket
      return { pattern := .atomic i.pattern, width := i.width }
    | _ => malformed
termination_by structural fuel => fuel

end

/-- The set that a pattern starts with, if that does not fold case. -/
def leadingSet? : Pattern → Option (List SetItem × Bool)
  | .one (.set m items negated) =>
    if items.any (SetItem.folds m.folding) then none else some (items, negated)
  | .seq p _ | .group _ p => leadingSet? p
  | _ => none

/-- A pattern that starts with a set is tried only where that holds by the flags of the whole
pattern too. -/
def guarded (flags : Flags) (i : Item) : Pattern :=
  match leadingSet? i.pattern with
  | some (items, negated) =>
    if i.width.least = 0 then i.pattern
    else
      let m := { flags.mode with folding := .none }
      .seq (.ahead false (.one (.set m items negated))) i.pattern
  | none => i.pattern

/-- A whole pattern. -/
def wholePattern : Reading Pattern := do
  let i ← readAlternatives true true (← get).flags (3 * (← get).rest.length + 3)
  let s ← get
  if s.flags.basic && s.flags.full then throw (.failed .incompatibleFlags)
  if !s.rest.isEmpty || s.asked.any (s.groups.length ≤ ·) || s.unusable then malformed
  return guarded s.flags i

/-- The pattern that a text describes, none if the text is malformed. Case is ignored unless an
inline flag says otherwise. -/
def ofText (s : String) : Except Failure (Option Pattern) :=
  match Token.ofChars s.toList with
  | none => .ok none
  | some tokens =>
    match wholePattern.run { rest := tokens } with
    | .ok (p, _) => .ok (some p)
    | .error .malformed => .ok none
    | .error (.failed f) => .error f

end Qualify.Pattern
