import Qualify.Yaml.Token

/-!
# Telling tokens apart

What starts with an indicator is told by its first characters. A key without a mark is found out at
its colon only, so every place where one may start is kept in mind; it has to stand on one line with
its colon and not be too long. In blocks a key may open a mapping, and indentation closes what it
opened.
-/

namespace Qualify.Yaml

/-- A place where a key may have started. -/
structure PossibleKey where
  /-- How many tokens stand before it. -/
  token : Nat
  /-- Can it be nothing else? -/
  isRequired : Bool
  place : Cursor

/-- The longest key without a mark. -/
def longestKey : Nat := 1024

/-- Is a place too far from a key's start for the key's colon? -/
def PossibleKey.isStale (k : PossibleKey) (c : Cursor) : Bool :=
  k.place.line ≠ c.line || k.place.index + longestKey < c.index

structure Lexer where
  cursor : Cursor
  /-- The tokens so far. -/
  tokens : Array Token := #[]
  /-- The keys that were found, the last one first: how many tokens stand before each, and whether
  it opens a mapping. -/
  found : List (Nat × Bool) := []
  /-- How many flow structures are open. -/
  flowLevel : Nat := 0
  /-- The column of the innermost block structure, and those of the ones around it. -/
  indent : Int := -1
  indents : List Int := []
  mayStartKey : Bool := true
  /-- The possible keys by the number of flow structures around them. -/
  keys : List (Nat × PossibleKey) := []

namespace Lexer

abbrev Scan := StateT Lexer (Except Fault)

def malformed {α : Type} : Scan α := throw .malformed

def emit (t : Token) : Scan Unit := modify fun s => { s with tokens := s.tokens.push t }

/-- A token of so many characters. -/
def emitShort (length : Nat) (t : Token) : Scan Unit :=
  modify fun s => { s with tokens := s.tokens.push t, cursor := s.cursor.forward length }

def allowKey (b : Bool) : Scan Unit := modify fun s => { s with mayStartKey := b }

/-- Forget possible keys that the rest of the text is too far from. -/
def dropStaleKeys : Scan Unit := do
  let s ← get
  if s.keys.any fun k => k.2.isStale s.cursor && k.2.isRequired then malformed
  set { s with keys := s.keys.filter fun k => !k.2.isStale s.cursor }

/-- Forget the possible key among the flow structures that are open now. -/
def dropKey : Scan Unit := do
  let s ← get
  match s.keys.lookup s.flowLevel with
  | none => pure ()
  | some k =>
    if k.isRequired then malformed
    set { s with keys := s.keys.filter fun k => k.1 ≠ s.flowLevel }

/-- A key may start here. -/
def noteKey : Scan Unit := do
  if (← get).mayStartKey then
    dropKey
    let s ← get
    let key : PossibleKey :=
      { token := s.tokens.size
        isRequired := s.flowLevel = 0 && s.indent = s.cursor.column
        place := s.cursor }
    set { s with keys := (s.flowLevel, key) :: s.keys }

/-- How many blocks end before a column, with the ones that are left. -/
def closed (column indent : Int) : List Int → Nat × Int × List Int
  | [] => (0, indent, [])
  | outer :: rest =>
    if column < indent then
      let (n, r) := closed column outer rest
      (n + 1, r)
    else (0, indent, outer :: rest)

/-- End the blocks that are indented further than a column. Flow structures do not care. -/
def closeTo (column : Int) : Scan Unit := do
  let s ← get
  if s.flowLevel = 0 then
    let (n, indent, indents) := closed column s.indent s.indents
    set { s with tokens := s.tokens ++ List.replicate n Token.blockEnd, indent, indents }

/-- Open a block at a column, unless one is open there. -/
def openAt (column : Nat) : Scan Bool := do
  let s ← get
  if s.indent < column then
    set { s with indent := column, indents := s.indent :: s.indents }
    return true
  else return false

/-- Past blanks, comments and line breaks. Behind a line break in a block a key may start. -/
def skipToToken : (fuel : Nat) → Scan Unit
  | 0 => pure ()
  | fuel + 1 => do
    let s ← get
    let c := s.cursor
    let c := if c.index = 0 ∧ c.peek = '\uFEFF' then c.step else c
    let c := c.skipWhile (· = ' ')
    let c := if c.peek = '#' then c.skipLine else c
    if isBreak c.peek then
      set { s with cursor := c.step, mayStartKey := s.mayStartKey || s.flowLevel = 0 }
      skipToToken fuel
    else set { s with cursor := c }

/-- What opens no structure by itself: a directive or a mark between documents. -/
def documentToken (read : Cursor → Except Fault (Token × Cursor)) : Scan Unit := do
  closeTo (-1)
  dropKey
  allowKey false
  let s ← get
  let (t, c) ← read s.cursor
  set { s with tokens := s.tokens.push t, cursor := c }

def mark (t : Token) : Scan Unit := documentToken fun c => .ok (t, c.forward 3)

def flowStart (t : Token) : Scan Unit := do
  noteKey
  modify fun s => { s with flowLevel := s.flowLevel + 1 }
  allowKey true
  emitShort 1 t

def flowEnd (t : Token) : Scan Unit := do
  dropKey
  modify fun s => { s with flowLevel := s.flowLevel - 1 }
  allowKey false
  emitShort 1 t

def flowEntry : Scan Unit := do
  allowKey true
  dropKey
  emitShort 1 .flowEntry

/-- A mark that may open a block, where a key may start. -/
def openBlock (t : Token) : Scan Unit := do
  let s ← get
  if s.flowLevel = 0 then
    if !s.mayStartKey then malformed
    if ← openAt s.cursor.column then emit t

def blockEntry : Scan Unit := do
  openBlock .blockSequenceStart
  allowKey true
  dropKey
  emitShort 1 .blockEntry

def key : Scan Unit := do
  openBlock .blockMappingStart
  allowKey ((← get).flowLevel = 0)
  dropKey
  emitShort 1 .key

def value : Scan Unit := do
  let s ← get
  match s.keys.lookup s.flowLevel with
  | some k =>
    set { s with keys := s.keys.filter fun k => k.1 ≠ s.flowLevel }
    let opens ← if s.flowLevel = 0 then openAt k.place.column else pure false
    modify fun s => { s with found := (k.token, opens) :: s.found }
    allowKey false
  | none =>
    openBlock .blockMappingStart
    allowKey (s.flowLevel = 0)
    dropKey
  emitShort 1 .value

/-- What may be a key without a mark, and has none behind it. -/
def keyToken (read : Cursor → Except Fault (Token × Cursor)) : Scan Unit := do
  noteKey
  allowKey false
  let s ← get
  let (t, c) ← read s.cursor
  set { s with tokens := s.tokens.push t, cursor := c }

def quotedToken : Scan Unit :=
  keyToken fun c => (fun r => (.scalar (String.ofList r.1) false, r.2)) <$> quotedScalar c

def blockToken : Scan Unit := do
  allowKey true
  dropKey
  let s ← get
  let (text, c) ← blockScalar (s.indent + 1).toNat s.cursor
  set { s with tokens := s.tokens.push (.scalar (String.ofList text) false), cursor := c }

def plainToken : Scan Unit := do
  noteKey
  let s ← get
  let (text, ended, c) := plainScalar (s.flowLevel ≠ 0) (s.indent + 1).toNat s.cursor
  set { s with
    tokens := s.tokens.push (.scalar (String.ofList text) true), cursor := c, mayStartKey := ended }

/-- Characters that start no plain scalar. -/
def indicators : List Char := "-?:,[]{}#&*!|>'\"%@`".toList

def startsPlain (inFlow : Bool) (c : Cursor) : Bool :=
  let ch := c.peek
  !(endsWord ch || indicators.contains ch) ||
    (!endsWord (c.peekAt 1) && (ch = '-' || (!inFlow && (ch = '?' || ch = ':'))))

/-- The next token with what comes before it; false at the end of the text. -/
def next : Scan Bool := do
  skipToToken (← get).cursor.bound
  dropStaleKeys
  closeTo (← get).cursor.column
  let s ← get
  let c := s.cursor
  let ch := c.peek
  let inFlow := s.flowLevel ≠ 0
  let isWord := endsWord (c.peekAt 1)
  if ch = '\x00' then
    closeTo (-1)
    dropKey
    return false
  if ch = '%' ∧ c.column = 0 then documentToken Token.directive
  else if c.column = 0 ∧ c.isMark '-' then mark .documentStart
  else if c.column = 0 ∧ c.isMark '.' then mark .documentEnd
  else if ch = '[' then flowStart .flowSequenceStart
  else if ch = '\x7b' then flowStart .flowMappingStart
  else if ch = ']' then flowEnd .flowSequenceEnd
  else if ch = '\x7d' then flowEnd .flowMappingEnd
  else if ch = ',' then flowEntry
  else if ch = '-' ∧ isWord then blockEntry
  else if ch = '?' ∧ (inFlow ∨ isWord) then key
  else if ch = ':' ∧ (inFlow ∨ isWord) then value
  else if ch = '*' then keyToken fun c => (fun r => (.alias r.1, r.2)) <$> Token.name c
  else if ch = '&' then keyToken fun c => (fun r => (.anchor r.1, r.2)) <$> Token.name c
  else if ch = '!' then keyToken Token.readTag
  else if (ch = '|' ∨ ch = '>') ∧ !inFlow then blockToken
  else if ch = '\'' ∨ ch = '"' then quotedToken
  else if startsPlain inFlow c then plainToken
  else malformed
  return true

/-- On from a place behind one more token, or no further where the text ends or goes on to no
token. -/
def goOn (s : Lexer) (r : Except Fault (Bool × Lexer)) (scan : Lexer → Lexer × Option Fault) :
    Lexer × Option Fault :=
  match r with
  | .ok (true, s) => scan s
  | .ok (false, s) => (s, none)
  | .error f => (s, some f)

/-- The end of the text, or the last place from which the text goes on to no token, and why. -/
def scan : (fuel : Nat) → Lexer → Lexer × Option Fault
  | 0, s => (s, none)
  | fuel + 1, s => goOn s (next.run s) (scan fuel)

/-- How many tokens are there before the first one that may still turn out to be a key. -/
def settled (s : Lexer) : Nat :=
  let possible := s.keys.filter fun k => !k.2.isStale s.cursor
  (possible.map (·.2.token)).foldl min s.tokens.size

/-- The tokens with those of the keys that were found, all in order from some place on. -/
def withKeys : Nat → List (Nat × Bool) → List Token → List Token
  | _, [], ts => ts
  | _, _, [] => []
  | n, (k, opens) :: keys, t :: ts =>
    if k = n then
      (if opens then [.blockMappingStart] else []) ++ .key :: t :: withKeys (n + 1) keys ts
    else t :: withKeys (n + 1) ((k, opens) :: keys) ts

end Lexer

/-- The tokens of a text, and why there are no more if the text does not end behind them. Only what
is settled comes before a fault. -/
def tokens (cs : List Char) : List Token × Option Fault :=
  let (s, fault) := Lexer.scan (cs.length + 1) { cursor := { rest := cs } }
  let ts := s.tokens.toList
  let ts := if fault.isSome then ts.take s.settled else ts
  (Lexer.withKeys 0 (s.found.mergeSort fun a b => a.1 ≤ b.1) ts, fault)

end Qualify.Yaml
