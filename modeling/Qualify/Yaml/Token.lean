import Qualify.Yaml.Scalar

/-!
# Tokens of a YAML text

The pieces that a text is made of. Where structures start and end by indentation and where a key
stands without a mark, there are tokens as well.
-/

namespace Qualify.Yaml

inductive Token where
  | versionDirective (major : Nat)
  | tagDirective (handle start : String)
  | otherDirective
  | documentStart
  | documentEnd
  | blockSequenceStart
  | blockMappingStart
  | blockEnd
  | flowSequenceStart
  | flowSequenceEnd
  | flowMappingStart
  | flowMappingEnd
  | blockEntry
  | flowEntry
  | key
  | value
  | alias (name : String)
  | anchor (name : String)
  /-- A tag behind a handle, or in full. -/
  | tag (handle : Option String) (rest : String)
  | scalar (text : String) (isPlain : Bool)
deriving DecidableEq

namespace Token

/-- A name behind an indicator, with what has to follow it. -/
def name (c : Cursor) : Except Fault (String × Cursor) :=
  let (cs, c) := c.step.takeWhile isWordChar
  let ends := endsWord c.peek || ['?', ':', ',', ']', '\x7d', '%', '@', '\x60'].contains c.peek
  if cs.isEmpty || !ends then .error .malformed else .ok (String.ofList cs, c)

/-! ## Tags -/

def isUriChar (c : Char) : Bool :=
  c.isAlphanum || "-;/?:@&=+$,_.!~*'()[]".toList.contains c

/-- Bytes that are written as percent signs and two digits. -/
def uriEscapes : (fuel : Nat) → Cursor → Except Fault (List UInt8 × Cursor)
  | 0, c => .ok ([], c)
  | fuel + 1, c =>
    if c.peek ≠ '%' then .ok ([], c)
    else match Text.hexValue? (c.peekAt 1), Text.hexValue? (c.peekAt 2) with
      | some a, some b => do
        let (bytes, c) ← uriEscapes fuel (c.forward 3)
        return (UInt8.ofNat (16 * a + b) :: bytes, c)
      | _, _ => .error .malformed

/-- The characters of a tag's name. -/
def uriChars : (fuel : Nat) → Cursor → Except Fault (List Char × Cursor)
  | 0, c => .ok ([], c)
  | fuel + 1, c => do
    let (run, c) := c.takeWhile isUriChar
    if c.peek ≠ '%' then return (run, c)
    let (bytes, c) ← uriEscapes c.bound c
    match String.fromUTF8? ⟨bytes.toArray⟩ with
    | none => .error .malformed
    | some s =>
      let (more, c) ← uriChars fuel c
      return (run ++ s.toList ++ more, c)

def uri (c : Cursor) : Except Fault (String × Cursor) := do
  let isThere := isUriChar c.peek || c.peek = '%'
  if !isThere then .error .malformed
  let (cs, c) ← uriChars c.bound c
  return (String.ofList cs, c)

/-- A handle: an exclamation mark, or a name between two of them. -/
def handle (c : Cursor) : Except Fault (String × Cursor) :=
  if c.peek ≠ '!' then .error .malformed
  else if c.peekAt 1 = ' ' then .ok ("!", c.step)
  else
    let (cs, rest) := c.step.takeWhile isWordChar
    if rest.peek = '!' then .ok (String.ofList ('!' :: cs ++ ['!']), rest.step)
    else .error .malformed

/-- Does a second exclamation mark follow the first one in the word here? -/
def hasHandle (c : Cursor) : Bool :=
  (c.rest.tail.takeWhile fun ch => ch = '\t' || !endsWord ch).contains '!'

def readTag (c : Cursor) : Except Fault (Token × Cursor) := do
  let (token, c) ←
    if c.peekAt 1 = '<' then
      match uri (c.forward 2) with
      | .error f => .error f
      | .ok (rest, c) =>
        if c.peek = '>' then .ok (Token.tag none rest, c.step) else .error .malformed
    else if endsWord (c.peekAt 1) then .ok (.tag none "!", c.step)
    else
      let behind := if hasHandle c then handle c else .ok ("!", c.step)
      match behind with
      | .error f => .error f
      | .ok (h, c) => (fun r => (Token.tag (some h) r.1, r.2)) <$> uri c
  if isEnd c.peek || c.peek = ' ' then return (token, c) else .error .malformed

/-! ## Directives -/

/-- A row of digits, which may not be too long. -/
def number (c : Cursor) : Except Fault (Nat × Cursor) :=
  let (cs, c) := c.takeWhile Char.isDigit
  if cs.isEmpty then .error .malformed
  else if digitLimit < cs.length then .error (.failed (.longNumeral cs.length))
  else .ok (Text.numberOfDigits (cs.map fun d => d.toNat - '0'.toNat), c)

/-- Does the line end here, or a blank stand? -/
def endsPart (c : Cursor) : Bool := isEnd c.peek || c.peek = ' '

def versionDirectiveRest (c : Cursor) : Except Fault (Token × Cursor) := do
  let (major, c) ← number (c.skipWhile (· = ' '))
  if c.peek ≠ '.' then .error .malformed
  let (_, c) ← number c.step
  if endsPart c then return (.versionDirective major, c) else .error .malformed

def tagDirectiveRest (c : Cursor) : Except Fault (Token × Cursor) := do
  let (h, c) ← handle (c.skipWhile (· = ' '))
  if c.peek ≠ ' ' then .error .malformed
  let (start, c) ← uri (c.skipWhile (· = ' '))
  if endsPart c then return (.tagDirective h start, c) else .error .malformed

/-- A directive with the rest of its line. -/
def directive (c : Cursor) : Except Fault (Token × Cursor) := do
  let (cs, c) := c.step.takeWhile isWordChar
  if cs.isEmpty || !endsPart c then .error .malformed
  let (token, c) ←
    if cs = "YAML".toList then versionDirectiveRest c
    else if cs = "TAG".toList then tagDirectiveRest c
    else .ok (.otherDirective, c.skipLine)
  return (token, ← restOfLine c)

end Token

end Qualify.Yaml
