import Qualify.Text.Blank

/-!
# Files of variables

A file of variables holds one assignment a line: a name, an equals sign and a value, which may be
quoted, with comments behind number signs. Lines that are no assignments are left out. A value may
refer to the variables before it.
-/

namespace Qualify

/-- A name with its value, none where the line has no equals sign. -/
abbrev Assignment := String × Option String

namespace EnvFile

open Text

def isLineEnd (c : Char) : Bool := c == '\n' || c == '\r'

/-- A blank within a line. -/
def isGap (c : Char) : Bool := isBlank c && !isLineEnd c

def skipGap (cs : List Char) : List Char := cs.dropWhile isGap

/-- The text without a leading word that may stand before a name. -/
def skipExport (cs : List Char) : List Char :=
  let word := "export".toList
  let rest := cs.drop word.length
  if word.isPrefixOf cs && rest.head?.any isGap then skipGap rest else cs

/-- The rest of a line, with its end. -/
def skipLine (cs : List Char) : List Char := (cs.dropWhile fun c => !isLineEnd c).drop 1

/-- What stands before a closing quote that no backslash precedes, and what follows it. -/
def beforeQuote (quote : Char) : List Char → Option (List Char × List Char)
  | [] => none
  | '\\' :: c :: cs =>
    if c = quote then (beforeQuote quote cs).map fun (v, r) => ('\\' :: c :: v, r)
    else (beforeQuote quote (c :: cs)).map fun (v, r) => ('\\' :: v, r)
  | c :: cs =>
    if c = quote then some ([], cs) else (beforeQuote quote cs).map fun (v, r) => (c :: v, r)
termination_by cs => cs.length

/-- What stands before the last quote, and what follows it. -/
def beforeLastQuote (quote : Char) (cs : List Char) : Option (List Char × List Char) :=
  let tail := cs.reverse.takeWhile (· != quote)
  if tail.length = cs.length then none
  else some (cs.take (cs.length - tail.length - 1), tail.reverse)

/-- Escapes behind backslashes replaced by what they stand for. -/
def unescape (escapes : List (Char × Char)) : List Char → List Char
  | [] => []
  | ['\\'] => ['\\']
  | '\\' :: c :: cs =>
    match escapes.lookup c with
    | some d => d :: unescape escapes cs
    | none => '\\' :: unescape escapes (c :: cs)
  | c :: cs => c :: unescape escapes cs
termination_by cs => cs.length

def singleEscapes : List (Char × Char) := [('\\', '\\'), ('\'', '\'')]

def doubleEscapes : List (Char × Char) :=
  [('\\', '\\'), ('\'', '\''), ('"', '"'), ('a', '\x07'), ('b', '\x08'), ('f', '\x0c'),
   ('n', '\n'), ('r', '\r'), ('t', '\t'), ('v', '\x0b')]

/-- A quoted value behind its opening quote. -/
def quotedValue (quote : Char) (escapes : List (Char × Char)) (cs : List Char) :
    Option (List Char × List Char) :=
  ((beforeQuote quote cs).or (beforeLastQuote quote cs)).map fun (v, r) => (unescape escapes v, r)

/-- A line up to a comment, which follows a blank. -/
def beforeComment : List Char → List Char
  | [] => []
  | c :: cs =>
    if isBlank c && (cs.dropWhile isBlank).head? = some '#' then [] else c :: beforeComment cs

def trimEnd (cs : List Char) : List Char := (cs.reverse.dropWhile isBlank).reverse

/-- A value that is not quoted: the rest of the line without a comment. -/
def plainValue (cs : List Char) : List Char × List Char :=
  let line := cs.takeWhile fun c => !isLineEnd c
  (trimEnd (beforeComment line), cs.drop line.length)

/-- A value, none if its quote is not closed. -/
def value : List Char → Option (List Char × List Char)
  | '\'' :: cs => quotedValue '\'' singleEscapes cs
  | '"' :: cs => quotedValue '"' doubleEscapes cs
  | cs => some (plainValue cs)

/-- A name, none if there is none; what is in error is what follows. -/
def name : List Char → Except (List Char) (Option (List Char) × List Char)
  | '#' :: cs => .ok (none, '#' :: cs)
  | '\'' :: cs =>
    match cs.span (· != '\'') with
    | (k, _ :: rest) => if k.isEmpty then .error ('\'' :: cs) else .ok (some k, rest)
    | _ => .error ('\'' :: cs)
  | cs =>
    match cs.span fun c => c != '=' && c != '#' && !isBlank c with
    | ([], _) => .error cs
    | (k, rest) => .ok (some k, rest)

/-- Behind a line's comment and end, or where neither stands. -/
def lineEnd (cs : List Char) : Except (List Char) (List Char) :=
  let cs := match skipGap cs with
    | '#' :: rest => rest.dropWhile fun c => !isLineEnd c
    | _ => cs
  match skipGap cs with
  | [] => .ok []
  | '\r' :: '\n' :: rest | '\n' :: rest | '\r' :: rest => .ok rest
  | _ => .error cs

/-- An assignment with what follows its line. -/
def assignment (cs : List Char) :
    Except (List Char) (Option (List Char × Option (List Char)) × List Char) := do
  let (key, cs) ← name (skipExport cs)
  let cs := skipGap cs
  let (v, cs) ← match cs with
    | '=' :: rest =>
      match value (skipGap rest) with
      | some (v, rest) => pure (some v, rest)
      | none => .error (skipGap rest)
    | cs => pure (none, cs)
  let cs ← lineEnd cs
  return (key.map fun k => (k, v), cs)

/-- The assignments of a file. -/
def assignments : (fuel : Nat) → List Char → List (List Char × Option (List Char))
  | 0, _ => []
  | fuel + 1, cs =>
    match cs.dropWhile isBlank with
    | [] => []
    | cs =>
      match assignment cs with
      | .ok (some a, rest) => a :: assignments fuel rest
      | .ok (none, rest) => assignments fuel rest
      | .error rest => assignments fuel (skipLine rest)

/-! ## References -/

/-- A reference to a variable, with a value to take where there is none. -/
def reference? (cs : List Char) : Option (List Char × List Char × List Char) :=
  match cs.span fun c => c != '\x7d' && c != ':' with
  | (k, '\x7d' :: rest) => some (k, [], rest)
  | (k, ':' :: '-' :: rest) =>
    match rest.span (· != '\x7d') with
    | (d, '\x7d' :: rest) => some (k, d, rest)
    | _ => none
  | _ => none

/-- A value with references replaced by the values of the variables. -/
def expand (known : List Assignment) : (fuel : Nat) → List Char → List Char
  | 0, _ => []
  | _ + 1, [] => []
  | fuel + 1, '$' :: '\x7b' :: cs =>
    match reference? cs with
    | some (k, d, rest) =>
      let v := match known.lookup (String.ofList k) with
        | some v => (v.getD "").toList
        | none => d
      v ++ expand known fuel rest
    | none => '$' :: expand known fuel ('\x7b' :: cs)
  | fuel + 1, c :: cs => c :: expand known fuel cs

/-- The assignments with their references replaced. What is known before comes last. -/
def expandAll (known : List Assignment) :
    List (List Char × Option (List Char)) → List Assignment
  | [] => []
  | (k, v) :: rest =>
    let a : Assignment := (String.ofList k, v.map fun v =>
      String.ofList (expand known (v.length + 1) v))
    a :: expandAll (a :: known) rest

end EnvFile

/-- The assignments in the text of a file of variables, with references to earlier ones and to the
variables of the environment replaced. -/
def EnvFile.read (environment : List (String × String)) (text : String) : List Assignment :=
  let known := environment.reverse.map fun e => (e.1, some e.2)
  EnvFile.expandAll known (EnvFile.assignments (text.toList.length + 1) text.toList)

end Qualify
