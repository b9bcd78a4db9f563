import Qualify.Text.Pieces
import Qualify.Yaml.Tag

/-!
# Styles of texts

A text is written as it is where that reads back as a text, between single quotes where that keeps
it, and between double quotes with escapes otherwise.
-/

namespace Qualify.Yaml

inductive Style where
  | plain
  | single
  | double
deriving DecidableEq, Repr

namespace Style

/-- Is the character written only with an escape? Line breaks are not. -/
def needsEscape (c : Char) : Bool := c != '\n' && !(' ' ≤ c && c ≤ '~')

/-- What no plain text starts with. -/
def leadingMarks : List Char :=
  ['#', ',', '[', ']', '\x7b', '\x7d', '&', '*', '!', '|', '>', '\'', '"', '%', '@', '\x60']

/-- Is the first character a mark because a blank or nothing follows? -/
def startsEntry : List Char → Bool
  | [c] | c :: ' ' :: _ => c == '?' || c == '-' || c == ':'
  | _ => false

/-- Is the text told from the marks of the format around it? -/
def isApart (cs : List Char) : Bool :=
  !cs.head?.any leadingMarks.contains && !startsEntry cs &&
    cs.take 3 != ['-', '-', '-'] && cs.take 3 != ['.', '.', '.'] &&
    !Text.occursIn [':', ' '] cs && !Text.occursIn [' ', '#'] cs && cs.getLast? != some ':'

/-- Does the text fit on one line without quotes? -/
def isPlain (cs : List Char) : Bool :=
  !cs.isEmpty && !cs.any needsEscape && !cs.contains '\n' && cs.head? != some ' ' &&
    cs.getLast? != some ' ' && isApart cs

/-- Are single quotes enough? Blanks beside a line break are lost between them. -/
def isQuotable (cs : List Char) : Bool :=
  !cs.any needsEscape && !Text.occursIn [' ', '\n'] cs && !Text.occursIn ['\n', ' '] cs

def ofText (s : String) : Style :=
  if Tag.ofPlain s = .text ∧ isPlain s.toList then plain
  else if isQuotable s.toList then single
  else double

end Style

/-! ## Escapes -/

/-- The escapes with one letter. -/
def escapeLetters : List (Char × Char) :=
  [('\x00', '0'), ('\x07', 'a'), ('\x08', 'b'), ('\t', 't'), ('\n', 'n'), ('\x0b', 'v'),
   ('\x0c', 'f'), ('\r', 'r'), ('\x1b', 'e'), ('"', '"'), ('\\', '\\'), ('\x85', 'N'),
   ('\xa0', '_'), ('\u2028', 'L'), ('\u2029', 'P')]

/-- The last hexadecimal digits of a number, in upper case. -/
def upperHexDigits : (width n : Nat) → List Char
  | 0, _ => []
  | width + 1, n => upperHexDigits width (n / 16) ++ [(Nat.digitChar (n % 16)).toUpper]

/-- A character as an escape. -/
def escaped (c : Char) : List Char :=
  match escapeLetters.lookup c with
  | some e => ['\\', e]
  | none =>
    if c.toNat < 0x100 then '\\' :: 'x' :: upperHexDigits 2 c.toNat
    else if c.toNat < 0x10000 then '\\' :: 'u' :: upperHexDigits 4 c.toNat
    else '\\' :: 'U' :: upperHexDigits 8 c.toNat

/-- Is a character between double quotes written as an escape? -/
def isEscaped (c : Char) : Bool := Style.needsEscape c || c == '\n' || c == '"' || c == '\\'

end Qualify.Yaml
