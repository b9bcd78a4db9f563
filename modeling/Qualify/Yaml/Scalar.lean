import Qualify.Text.Digit
import Qualify.Yaml.Cursor

/-!
# Scalars in a YAML text

A scalar is plain, in single or double quotes, or a block of lines. Where a scalar goes over several
lines, a single line break in it becomes a blank, and of several breaks all but the first are kept.
-/

namespace Qualify.Yaml

/-- What a line break stands for, given the breaks of the empty lines behind it. -/
def folded (lineBreak breaks : List Char) : List Char :=
  if lineBreak ≠ ['\n'] then lineBreak ++ breaks
  else if breaks.isEmpty then [' ']
  else breaks

/-! ## In quotes -/

/-- Past blanks and empty lines, whose breaks are kept. No document may start or end here. -/
def emptyLines : (fuel : Nat) → Cursor → Except Fault (List Char × Cursor)
  | 0, c => .ok ([], c)
  | fuel + 1, c =>
    if c.atMark then .error .malformed
    else
      let c := c.skipWhile isGap
      if isBreak c.peek then do
        let (lineBreak, c) := c.lineBreak
        let (breaks, c) ← emptyLines fuel c
        return (lineBreak ++ breaks, c)
      else .ok ([], c)

/-- Blanks and line breaks between the words of a quoted scalar. -/
def quotedGap (c : Cursor) : Except Fault (List Char × Cursor) := do
  let (gap, c) := c.takeWhile isGap
  if isBreak c.peek then
    let (lineBreak, c) := c.lineBreak
    let (breaks, c) ← emptyLines c.bound c
    return (folded lineBreak breaks, c)
  if c.peek = '\x00' then .error .malformed else return (gap, c)

/-- What a character behind a backslash stands for. -/
def escapes : List (Char × Char) :=
  [('0', '\x00'), ('a', '\x07'), ('b', '\x08'), ('t', '\t'), ('\t', '\t'), ('n', '\n'), ('v', '\x0b'),
   ('f', '\x0c'), ('r', '\r'), ('e', '\x1b'), (' ', ' '), ('"', '"'), ('\\', '\\'), ('/', '/'),
   ('N', '\x85'), ('_', '\xa0'), ('L', '\u2028'), ('P', '\u2029')]

/-- How many digits follow the letter of an escape by number. -/
def escapeWidths : List (Char × Nat) := [('x', 2), ('u', 4), ('U', 8)]

/-- The number that hexadecimal digits denote. -/
def hexNumber? (cs : List Char) : Option Nat :=
  cs.foldlM (fun n c => (Text.hexValue? c).map (16 * n + ·)) 0

/-- A character by its number; half of a pair becomes the replacement character. -/
def character (code : Nat) : Except Fault Char :=
  if 0x10FFFF < code then .error (.noCharacter code)
  else if 0xD800 ≤ code ∧ code ≤ 0xDFFF then .ok '\uFFFD'
  else .ok (Char.ofNat code)

/-- What an escape stands for, its backslash being behind. -/
def escape (c : Cursor) : Except Fault (List Char × Cursor) := do
  let ch := c.peek
  if let some d := escapes.lookup ch then return ([d], c.step)
  if let some width := escapeWidths.lookup ch then
    let digits := c.rest.tail.take width
    match hexNumber? digits with
    | some n =>
      if digits.length < width then .error .malformed
      else return ([← character n], c.forward (width + 1))
    | none => .error .malformed
  else if isBreak ch then emptyLines c.bound c.lineBreak.2
  else .error .malformed

/-- A word of a quoted scalar, up to a blank, a line break or the closing quote. -/
def quotedWord (quote : Char) : (fuel : Nat) → Cursor → Except Fault (List Char × Cursor)
  | 0, c => .ok ([], c)
  | fuel + 1, c => do
    let (run, c) := c.takeWhile fun ch =>
      ch != '\'' && ch != '"' && ch != '\\' && !endsWord ch
    let ch := c.peek
    let (piece, c, goesOn) ←
      if quote = '\'' ∧ ch = '\'' ∧ c.peekAt 1 = '\'' then pure (['\''], c.forward 2, true)
      else if quote = '"' ∧ ch = '\\' then (fun p => (p.1, p.2, true)) <$> escape c.step
      else if ch ≠ quote ∧ (ch = '\'' ∨ ch = '"' ∨ ch = '\\') then pure ([ch], c.step, true)
      else pure ([], c, false)
    if goesOn then
      let (more, c) ← quotedWord quote fuel c
      return (run ++ piece ++ more, c)
    else return (run, c)

/-- The rest of a quoted scalar with its closing quote. -/
def quotedRest (quote : Char) : (fuel : Nat) → Cursor → Except Fault (List Char × Cursor)
  | 0, _ => .error .malformed
  | fuel + 1, c => do
    let (word, c) ← quotedWord quote c.bound c
    if c.peek = quote then return (word, c.step)
    let (gap, c) ← quotedGap c
    let (more, c) ← quotedRest quote fuel c
    return (word ++ gap ++ more, c)

/-- A quoted scalar. -/
def quotedScalar (c : Cursor) : Except Fault (List Char × Cursor) :=
  quotedRest c.peek c.bound c.step

/-! ## Plain -/

/-- The characters of a plain scalar up to a blank, a line break or an indicator. -/
def plainRun (inFlow : Bool) : List Char → List Char
  | [] => []
  | ch :: cs =>
    let next := cs.headD '\x00'
    if endsWord ch then []
    else if ch = ':' ∧ endsWord next then []
    else if inFlow ∧ ch = ':' ∧ [',', '[', ']', '\x7b', '\x7d'].contains next then []
    else if inFlow ∧ [',', '?', '[', ']', '\x7b', '\x7d'].contains ch then []
    else ch :: plainRun inFlow cs

/-- Past blanks and empty lines of a plain scalar; none if a document starts or ends there. -/
def plainLines : (fuel : Nat) → Cursor → Option (List Char) × Cursor
  | 0, c => (some [], c)
  | fuel + 1, c =>
    let c := c.skipWhile (· = ' ')
    if isBreak c.peek then
      let (lineBreak, c) := c.lineBreak
      if c.atMark then (none, c)
      else
        let (breaks, c) := plainLines fuel c
        (breaks.map (lineBreak ++ ·), c)
    else (some [], c)

/-- What stands for the blanks and line breaks between the words of a plain scalar, nothing at its
end, and whether a line ends there. -/
def plainGap (c : Cursor) : List Char × Bool × Cursor :=
  let (gap, c) := c.takeWhile (· = ' ')
  if isBreak c.peek then
    let (lineBreak, c) := c.lineBreak
    if c.atMark then ([], true, c)
    else
      match plainLines c.bound c with
      | (none, c) => ([], true, c)
      | (some breaks, c) => (folded lineBreak breaks, true, c)
  else (gap, false, c)

/-- A plain scalar behind a gap, and whether the gap at its end holds the end of a line. -/
def plainFrom (inFlow : Bool) (indent : Nat) :
    (fuel : Nat) → List Char → Bool → Cursor → List Char × Bool × Cursor
  | 0, _, ended, c => ([], ended, c)
  | fuel + 1, gap, ended, c =>
    let run := if c.peek = '#' then [] else plainRun inFlow c.rest
    if run.isEmpty then ([], ended, c)
    else
      let (next, ended, c) := plainGap (c.forward run.length)
      if next.isEmpty || c.peek = '#' || (!inFlow && c.column < indent) then (gap ++ run, ended, c)
      else
        let (more, ended, c) := plainFrom inFlow indent fuel next ended c
        (gap ++ run ++ more, ended, c)

def plainScalar (inFlow : Bool) (indent : Nat) (c : Cursor) : List Char × Bool × Cursor :=
  plainFrom inFlow indent c.bound [] false c

/-! ## In blocks -/

/-- What becomes of the line breaks at the end of a block. -/
inductive Chomping where
  | strip
  | clip
  | keep
deriving DecidableEq

def chomping? : Char → Option Chomping
  | '+' => some .keep
  | '-' => some .strip
  | _ => none

/-- A digit that says how far a block is indented. -/
def indentation? (c : Char) : Option Nat :=
  if c.isDigit then some (c.toNat - '0'.toNat) else none

/-- The first line of a block: how it ends, and how far it is indented if that is said. -/
def blockHeader (c : Cursor) : Except Fault (Chomping × Option Nat × Cursor) := do
  let (chomping, increment, c) := match chomping? c.peek with
    | some chomping =>
      match indentation? c.step.peek with
      | some n => (chomping, some n, c.forward 2)
      | none => (chomping, none, c.step)
    | none =>
      match indentation? c.peek with
      | some n =>
        match chomping? c.step.peek with
        | some chomping => (chomping, some n, c.forward 2)
        | none => (.clip, some n, c.step)
      | none => (.clip, none, c)
  if increment = some 0 ∨ !(isEnd c.peek || c.peek = ' ') then .error .malformed
  else return (chomping, increment, ← restOfLine c)

/-- Past the empty lines at the front of a block, with their breaks and the widest indentation. -/
def blockFront : (fuel : Nat) → (widest : Nat) → Cursor → List Char × Nat × Cursor
  | 0, widest, c => ([], widest, c)
  | fuel + 1, widest, c =>
    if c.peek = ' ' then
      let c := c.step
      blockFront fuel (max widest c.column) c
    else if isBreak c.peek then
      let (lineBreak, c) := c.lineBreak
      let (breaks, widest, c) := blockFront fuel widest c
      (lineBreak ++ breaks, widest, c)
    else ([], widest, c)

/-- Past blanks up to a column. -/
def toColumn (column : Nat) (c : Cursor) : Cursor :=
  c.forward ((c.rest.take (column - c.column)).takeWhile (· = ' ')).length

/-- Past the empty lines of a block, with their breaks. -/
def blockGap (indent : Nat) : (fuel : Nat) → Cursor → List Char × Cursor
  | 0, c => ([], c)
  | fuel + 1, c =>
    let c := toColumn indent c
    if isBreak c.peek then
      let (lineBreak, c) := c.lineBreak
      let (breaks, c) := blockGap indent fuel c
      (lineBreak ++ breaks, c)
    else ([], c)

/-- The lines of a block behind empty ones, then the last line's break and the breaks behind it. -/
def blockLines (isFolded : Bool) (indent : Nat) :
    (fuel : Nat) → List Char → Cursor → List Char × List Char × List Char × Cursor
  | 0, before, c => ([], [], before, c)
  | fuel + 1, before, c =>
    let goesOn (c : Cursor) : Bool := c.column = indent && c.peek ≠ '\x00'
    if !goesOn c then ([], [], before, c)
    else
      let isIndented := isGap c.peek
      let (line, c) := c.takeWhile (!isEnd ·)
      let (lineBreak, c) := c.lineBreak
      let (breaks, c) := blockGap indent c.bound c
      if goesOn c then
        let joint :=
          if isFolded && lineBreak = ['\n'] && !isIndented && !isGap c.peek then
            if breaks.isEmpty then [' '] else []
          else lineBreak
        let (more, lineBreak, breaks, c) := blockLines isFolded indent fuel breaks c
        (before ++ line ++ joint ++ more, lineBreak, breaks, c)
      else (before ++ line, lineBreak, breaks, c)

/-- A block inside a structure that is indented so far. -/
def blockScalar (least : Nat) (c : Cursor) : Except Fault (List Char × Cursor) := do
  let isFolded := c.peek = '>'
  let (chomping, increment, c) ← blockHeader c.step
  let least := max 1 least
  let (indent, breaks, c) := match increment with
    | some n =>
      let (breaks, c) := blockGap (least + n - 1) c.bound c
      (least + n - 1, breaks, c)
    | none =>
      let (breaks, widest, c) := blockFront c.bound 0 c
      (max least widest, breaks, c)
  let (text, lineBreak, breaks, c) := blockLines isFolded indent c.bound breaks c
  let ending := match chomping with
    | .strip => []
    | .clip => lineBreak
    | .keep => lineBreak ++ breaks
  return (text ++ ending, c)

end Qualify.Yaml
