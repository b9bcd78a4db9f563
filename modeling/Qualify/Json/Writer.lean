import Qualify.Number.Shortest
import Qualify.Text.Quoted
import Qualify.Json

/-!
# Writing JSON

A document on one line, or with one element a line and two spaces of indentation for each level.
Only ASCII is written; other characters are escaped, those past the first plane as two escapes.
-/

namespace Qualify.Json

def escapeUnit (n : Nat) : List Char := '\\' :: 'u' :: Text.hexDigits 4 n

def writtenChar (c : Char) : List Char :=
  if c = '"' ∨ c = '\\' then ['\\', c]
  else if c = '\n' then ['\\', 'n']
  else if c = '\r' then ['\\', 'r']
  else if c = '\t' then ['\\', 't']
  else if c = '\x08' then ['\\', 'b']
  else if c = '\x0c' then ['\\', 'f']
  else
    let n := c.toNat
    if 0x20 ≤ n ∧ n < 0x7F then [c]
    else if n < 0x10000 then escapeUnit n
    else escapeUnit (0xD800 + (n - 0x10000) / 0x400) ++ escapeUnit (0xDC00 + (n - 0x10000) % 0x400)

def writtenString (s : String) : String :=
  String.ofList ('"' :: s.toList.flatMap writtenChar ++ ['"'])

def floatText : Binary64 → String
  | .nan => "NaN"
  | .infinite s => if s then "-Infinity" else "Infinity"
  | x => x.text

/-- How the elements of a collection are set apart. -/
structure Layout where
  /-- Is there one element a line? -/
  indented : Bool := false
  level : Nat := 0

namespace Layout

def deeper (l : Layout) : Layout := { l with level := l.level + 1 }

/-- What stands before an element, or before the closing bracket. -/
def newline (l : Layout) : String :=
  if l.indented then String.ofList ('\n' :: List.replicate (2 * l.level) ' ') else ""

def separator (l : Layout) : String := if l.indented then "," ++ l.newline else ", "

/-- Elements between brackets. -/
def enclose (l : Layout) (opening closing : String) (parts : List String) : String :=
  if parts.isEmpty then opening ++ closing
  else opening ++ l.deeper.newline ++ l.deeper.separator.intercalate parts ++ l.newline ++ closing

end Layout

mutual

def write (l : Layout) (j : Json) : String :=
  match j with
  | .null => "null"
  | .bool b => if b then "true" else "false"
  | .int n => toString n
  | .float x => floatText x
  | .text s => writtenString s
  | .array xs => l.enclose "[" "]" (writeItems l.deeper xs)
  | .object es => l.enclose "\x7b" "\x7d" (writeEntries l.deeper es)
termination_by structural j

def writeItems (l : Layout) (xs : List Json) : List String :=
  match xs with
  | [] => []
  | x :: xs => write l x :: writeItems l xs
termination_by structural xs

def writeEntries (l : Layout) (es : List (String × Json)) : List String :=
  match es with
  | [] => []
  | (k, x) :: es => (writtenString k ++ ": " ++ write l x) :: writeEntries l es
termination_by structural es

end

/-- The document on one line. -/
def line (j : Json) : String := write { } j

/-- The document with one element a line. -/
def pretty (j : Json) : String := write { indented := true } j

end Qualify.Json
