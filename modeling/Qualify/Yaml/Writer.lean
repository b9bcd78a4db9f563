import Qualify.Json
import Qualify.Number.Shortest
import Qualify.Yaml.Style

/-!
# Writing YAML

A mapping with one entry or item a line. Entries of a mapping stand two columns further in than what
they belong to, the items of a list in a mapping right below their key. Texts that go past the
eightieth column are folded at a blank.
-/

namespace Qualify.Yaml

/-- Text up to a place, and what the place is like. -/
structure Page where
  /-- The characters, the last one first. -/
  written : List Char := []
  column : Nat := 0
  /-- Does a blank stand before the place, or the start of a line? -/
  isSpaced : Bool := true
  /-- Is there nothing on the line but blanks and the marks of entries? -/
  isOpen : Bool := true

namespace Page

def add (p : Page) (cs : List Char) : Page :=
  { p with written := cs.reverse ++ p.written, column := p.column + cs.length }

def breakLine (p : Page) : Page := ⟨'\n' :: p.written, 0, true, true⟩

def text (p : Page) : String := String.ofList p.written.reverse

/-- Blanks up to a column. -/
def pad (p : Page) (column : Nat) : Page :=
  if p.column < column then
    { p.add (List.replicate (column - p.column) ' ') with isSpaced := true }
  else p

/-- A line of its own that starts at a column, unless the line is open up to there. -/
def startLine (p : Page) (column : Nat) : Page :=
  (if !p.isOpen || column < p.column || (p.column == column && !p.isSpaced) then p.breakLine
    else p).pad column

/-- Something right behind what stands there. -/
def close (p : Page) (cs : List Char) : Page :=
  { p.add cs with isSpaced := false, isOpen := false }

/-- Something that is set apart by a blank. -/
def word (p : Page) (cs : List Char) : Page := p.close (if p.isSpaced then cs else ' ' :: cs)

/-- The mark of an entry, behind which the line stays open. -/
def entry (p : Page) (c : Char) : Page := { p.word [c] with isOpen := p.isOpen }

end Page

/-! ## Scalars -/

/-- The column past which texts are folded. -/
def width : Nat := 80

/-- How a text goes on over several lines. -/
structure Folding where
  /-- The column at which its lines start. -/
  column : Nat
  /-- May a line end at a blank? -/
  atBlanks : Bool

namespace Folding

/-- Is the place past the column at which a blank ends the line? -/
def endsAt (f : Folding) (p : Page) : Bool := f.atBlanks && width < p.column

def nextLine (f : Folding) (p : Page) : Page := p.breakLine.pad f.column

/-- The text cut between blanks, line breaks and other characters. -/
def runs (cs : List Char) : List (List Char) :=
  cs.splitBy fun a b => (a == ' ') == (b == ' ') && (a == '\n') == (b == '\n')

def plainRun (f : Folding) (p : Page) (run : List Char) : Page :=
  if run == [' '] && f.endsAt p then f.nextLine p else p.add run

def plain (f : Folding) (cs : List Char) (p : Page) : Page :=
  ((runs cs).foldl f.plainRun (p.word [])).close []

/-- A run between single quotes: a quote is doubled, and so are line breaks. -/
def singleRun (f : Folding) (isEdge : Bool) (p : Page) (run : List Char) : Page :=
  if run.head? == some '\n' then (run.foldl (fun p _ => p.breakLine) p.breakLine).pad f.column
  else if run == [' '] && !isEdge && f.endsAt p then f.nextLine p
  else p.add (Text.replaceChar '\'' ['\'', '\''] run)

/-- The runs of a text; at its edges nothing is folded. -/
def singleRuns (f : Folding) : (isFirst : Bool) → List (List Char) → Page → Page
  | _, [], p => p
  | isFirst, run :: rest, p =>
    singleRuns f false rest (f.singleRun (isFirst || rest.isEmpty) p run)

def single (f : Folding) (cs : List Char) (p : Page) : Page :=
  (f.singleRuns true (runs cs) (p.word ['\''])).close ['\'']

/-- A backslash at the end of a line, and another one before a blank that starts the next. -/
def escapedLine (f : Folding) (rest : List Char) (p : Page) : Page :=
  let p := f.nextLine (p.add ['\\'])
  if rest.head? == some ' ' then p.add ['\\'] else p

/-- A text between double quotes. A line ends before a blank or beside an escape. -/
def doubleFrom (f : Folding) : (isFirst afterEscape : Bool) → List Char → Page → Page
  | _, _, [], p => p
  | isFirst, afterEscape, c :: rest, p =>
    let mayEnd := !isFirst && !rest.isEmpty && f.atBlanks
    if isEscaped c then
      let p := p.add (escaped c)
      let p := if mayEnd && width + 1 < p.column then f.escapedLine rest p else p
      doubleFrom f false true rest p
    else
      let endsHere := mayEnd && (c == ' ' || afterEscape) && f.endsAt p
      let p := if endsHere then f.escapedLine (c :: rest) p else p
      doubleFrom f false false rest (p.add [c])

def double (f : Folding) (cs : List Char) (p : Page) : Page :=
  (f.doubleFrom true false cs (p.word ['"'])).close ['"']

def text (f : Folding) (s : String) (p : Page) : Page :=
  match Style.ofText s with
  | .plain => f.plain s.toList p
  | .single => f.single s.toList p
  | .double => f.double s.toList p

end Folding

/-- A numeral always has a point. -/
def floatText : Binary64 → String
  | .nan => ".nan"
  | .infinite s => if s then "-.inf" else ".inf"
  | x =>
    let cs := x.text.toList
    if cs.contains '.' then x.text else String.ofList (Text.replaceChar 'e' ['.', '0', 'e'] cs)

/-- A key stands before its value on one line unless it is empty, long or has more than one line. -/
def isSimpleKey (key : String) : Bool :=
  let cs := key.toList
  !cs.isEmpty && cs.length < 123 && !cs.any fun c =>
    c == '\n' || c == '\x85' || c == '\u2028' || c == '\u2029'

/-! ## Collections -/

/-- The start of an entry up to its value. -/
def writeKey (column : Nat) (key : String) (p : Page) : Page :=
  let p := p.startLine column
  if isSimpleKey key then (Folding.text ⟨column + 2, false⟩ key p).close [':']
  else
    let p := Folding.text ⟨column + 2, true⟩ key (p.entry '?')
    (p.startLine column).entry ':'

mutual

/-- What belongs to a collection whose parts start at a column. -/
def writeNode (column : Nat) (inMapping : Bool) (j : Json) (p : Page) : Page :=
  match j with
  | .null => p.word "null".toList
  | .bool b => p.word (if b then "true" else "false").toList
  | .int n => p.word (toString n).toList
  | .float x => p.word (floatText x).toList
  | .text s => Folding.text ⟨column + 2, true⟩ s p
  | .array [] => p.word ['[', ']']
  | .array (x :: xs) => writeItems (if inMapping && !p.isOpen then column else column + 2) (x :: xs) p
  | .object [] => p.word ['\x7b', '\x7d']
  | .object (e :: es) => writeEntries (column + 2) (e :: es) p
termination_by structural j

def writeItems (column : Nat) (xs : List Json) (p : Page) : Page :=
  match xs with
  | [] => p
  | x :: xs => writeItems column xs (writeNode column false x ((p.startLine column).entry '-'))
termination_by structural xs

def writeEntries (column : Nat) (es : List (String × Json)) (p : Page) : Page :=
  match es with
  | [] => p
  | (k, x) :: es => writeEntries column es (writeNode column true x (writeKey column k p))
termination_by structural es

end

/-- The document of a mapping. -/
def write (es : List (String × Json)) : String :=
  let p : Page := {}
  ((if es.isEmpty then p.word ['\x7b', '\x7d'] else writeEntries 0 es p).startLine 0).text

end Qualify.Yaml
