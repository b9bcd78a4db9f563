import Qualify.Failure

/-!
# Places in a YAML text

A cursor is a place in a text with its line and column. Behind the text stands a null character,
which no text holds. Lines end with a line feed or one of three other characters.
-/

namespace Qualify.Yaml

/-- Why a text gives no data. -/
inductive Fault where
  /-- The text is not in the format, or denotes what cannot be built. -/
  | malformed
  /-- An escape gives a number that no character has. -/
  | noCharacter (code : Nat)
  /-- A text, given in quotes, is no truth value. -/
  | noTruthValue (quoted : String)
  /-- A text is no date. -/
  | noDate
  /-- What should be a date is no text. -/
  | noDateText
  /-- A number to the base of sixty has more places than can be counted with. -/
  | farPlace
  | failed (failure : Failure)
deriving DecidableEq

/-- May the character stand in a text? -/
def isAllowed (c : Char) : Bool :=
  let n := c.toNat
  n == 9 || n == 10 || n == 13 || (0x20 ≤ n && n ≤ 0x7E) || n == 0x85 ||
    (0xA0 ≤ n && n ≤ 0xD7FF) || (0xE000 ≤ n && n ≤ 0xFFFD) || 0x10000 ≤ n

def isBreak (c : Char) : Bool := c == '\n' || c == '\x85' || c == '\u2028' || c == '\u2029'

/-- Does the line end here? -/
def isEnd (c : Char) : Bool := c == '\x00' || isBreak c

def isGap (c : Char) : Bool := c == ' ' || c == '\t'

/-- Does a word end here? -/
def endsWord (c : Char) : Bool := isEnd c || isGap c

def isWordChar (c : Char) : Bool := c.isAlphanum || c == '-' || c == '_'

structure Cursor where
  rest : List Char
  index : Nat := 0
  line : Nat := 0
  column : Nat := 0

namespace Cursor

/-- The character here. -/
def peek (c : Cursor) : Char := c.rest.headD '\x00'

/-- The character some way on. -/
def peekAt (c : Cursor) (n : Nat) : Char := c.rest.getD n '\x00'

/-- Past one character. A byte order mark has no column. -/
def step (c : Cursor) : Cursor :=
  match c.rest with
  | [] => c
  | ch :: rest =>
    if isBreak ch then ⟨rest, c.index + 1, c.line + 1, 0⟩
    else ⟨rest, c.index + 1, c.line, if ch = '\uFEFF' then c.column else c.column + 1⟩

def forward : Nat → Cursor → Cursor
  | 0, c => c
  | n + 1, c => forward n c.step

/-- The characters here with a property, and the cursor behind them. -/
def takeWhile (p : Char → Bool) (c : Cursor) : List Char × Cursor :=
  let cs := c.rest.takeWhile p
  (cs, c.forward cs.length)

def skipWhile (p : Char → Bool) (c : Cursor) : Cursor := (c.takeWhile p).2

/-- To the end of the line. -/
def skipLine (c : Cursor) : Cursor := c.skipWhile (!isEnd ·)

/-- The end of a line as it is kept, and the cursor behind it: nothing if the line goes on. -/
def lineBreak (c : Cursor) : List Char × Cursor :=
  let ch := c.peek
  if !isBreak ch then ([], c)
  else ([if ch = '\n' ∨ ch = '\x85' then '\n' else ch], c.step)

/-- Are there three of a character here, and a word's end behind them? -/
def isMark (c : Cursor) (ch : Char) : Bool :=
  c.rest.take 3 == [ch, ch, ch] && endsWord (c.peekAt 3)

/-- Does a document start or end here? -/
def atMark (c : Cursor) : Bool := c.isMark '-' || c.isMark '.'

/-- A bound on the steps that are left. -/
def bound (c : Cursor) : Nat := c.rest.length + 1

end Cursor

/-- Past blanks, a comment and the end of the line, if there is nothing else. -/
def restOfLine (c : Cursor) : Except Fault Cursor :=
  let c := c.skipWhile (· = ' ')
  let c := if c.peek = '#' then c.skipLine else c
  if isEnd c.peek then .ok c.lineBreak.2 else .error .malformed

end Qualify.Yaml
