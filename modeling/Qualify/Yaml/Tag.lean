/-!
# Tags of YAML nodes

The tag of a node says what it denotes. A plain scalar without a tag has one by its form: words for
truth values and null, numerals and dates.
-/

namespace Qualify.Yaml

inductive Tag where
  | null
  | bool
  | int
  | float
  | binary
  | timestamp
  | omap
  | pairs
  | set
  | text
  | sequence
  | mapping
  /-- The key of entries that are taken over. -/
  | merge
  /-- The key of a default. -/
  | value
  | unknown
deriving DecidableEq, Repr

namespace Tag

/-- What the names of the known tags start with. -/
def namespaceName : String := "tag:yaml.org,2002:"

def known : List (String × Tag) :=
  [("null", null), ("bool", bool), ("int", int), ("float", float), ("binary", binary),
   ("timestamp", timestamp), ("omap", omap), ("pairs", pairs), ("set", set), ("str", text),
   ("seq", sequence), ("map", mapping), ("merge", merge), ("value", value)]

def ofName (name : String) : Tag :=
  match known.find? fun t => namespaceName ++ t.1 == name with
  | some t => t.2
  | none => unknown

/-! ## Forms of plain scalars -/

def boolWords : List String :=
  ["yes", "Yes", "YES", "no", "No", "NO", "true", "True", "TRUE", "false", "False", "FALSE", "on",
   "On", "ON", "off", "Off", "OFF"]

def nullWords : List String := ["", "~", "null", "Null", "NULL"]

/-- Past a sign, if there is one. -/
def unsigned : List Char → List Char
  | '+' :: cs | '-' :: cs => cs
  | cs => cs

def isDigitOrLine (c : Char) : Bool := c.isDigit || c == '_'

def isOneOf (p : Char → Bool) (c : Char) : Bool := p c || c == '_'

/-- Is there something, and does it consist of these characters and underscores? -/
def isRow (p : Char → Bool) (cs : List Char) : Bool := !cs.isEmpty && cs.all (isOneOf p)

/-- A row of digits and underscores that starts with a digit, and what follows. -/
def digits? (cs : List Char) : Option (List Char × List Char) :=
  if cs.head?.any Char.isDigit then some (cs.span isDigitOrLine) else none

def isExponent : List Char → Bool
  | [] => true
  | e :: s :: ds =>
    (e == 'e' || e == 'E') && (s == '+' || s == '-') && !ds.isEmpty && ds.all Char.isDigit
  | _ => false

/-- Past parts to the base of sixty, each behind a colon; the flag tells whether there was one. -/
def sixties : Bool → List Char → Bool × List Char
  | found, ':' :: a :: b :: cs =>
    if '0' ≤ a ∧ a ≤ '5' ∧ b.isDigit then sixties true cs
    else if a.isDigit then sixties true (b :: cs)
    else (found, ':' :: a :: b :: cs)
  | found, [':', a] => if a.isDigit then (true, []) else (found, [':', a])
  | found, cs => (found, cs)
termination_by _ cs => cs.length

def isFloat (cs : List Char) : Bool :=
  let rest := unsigned cs
  (match digits? rest with
    | some (_, '.' :: tail) => isExponent (tail.dropWhile isDigitOrLine)
    | some (_, tail) =>
      match sixties false tail with
      | (true, '.' :: tail) => tail.all isDigitOrLine
      | _ => false
    | none => false) ||
    (match cs with
      | '.' :: tail =>
        match digits? tail with
        | some (_, tail) => isExponent tail
        | none => false
      | _ => false) ||
    [".inf".toList, ".Inf".toList, ".INF".toList].contains rest ||
    [".nan".toList, ".NaN".toList, ".NAN".toList].contains cs

def isInt (cs : List Char) : Bool :=
  match unsigned cs with
  | ['0'] => true
  | '0' :: 'b' :: tail => isRow (fun c => c == '0' || c == '1') tail
  | '0' :: 'x' :: tail =>
    isRow (fun c => c.isDigit || ('a' ≤ c && c ≤ 'f') || ('A' ≤ c && c ≤ 'F')) tail
  | '0' :: tail => isRow (fun c => '0' ≤ c && c ≤ '7') tail
  | rest =>
    match digits? rest with
    | some (_, []) => true
    | some (_, tail) => sixties false tail == (true, [])
    | none => false

/-! ## Dates -/

/-- The parts of a date with a time of day and a zone, as digits. -/
structure DateParts where
  year : List Char
  month : List Char
  day : List Char
  time : Option (List Char × List Char × List Char × List Char) := none
  /-- A sign, hours and minutes; the sign alone is missing in universal time. -/
  zone : Option (Option (Char × List Char × List Char)) := none

/-- As many digits as there are, up to some number of them and no fewer than another. -/
def someDigits (least most : Nat) (cs : List Char) : Option (List Char × List Char) :=
  let ds := (cs.take most).takeWhile Char.isDigit
  if ds.length < least then none else some (ds, cs.drop ds.length)

/-- Past a character. -/
def past (c : Char) : List Char → Option (List Char)
  | d :: cs => if c = d then some cs else none
  | [] => none

def isGapChar (c : Char) : Bool := c == ' ' || c == '\t'

/-- The zone at the end of a time, if there is one. -/
def zone? (cs : List Char) : Option (Option (Option (Char × List Char × List Char))) :=
  match cs.dropWhile isGapChar with
  | [] => if cs.isEmpty then some none else none
  | ['Z'] => some (some none)
  | s :: rest =>
    if s ≠ '+' ∧ s ≠ '-' then none
    else do
      let (hours, rest) ← someDigits 1 2 rest
      match rest with
      | [] => return some (some (s, hours, []))
      | ':' :: rest =>
        let (minutes, rest) ← someDigits 2 2 rest
        if rest.isEmpty then return some (some (s, hours, minutes)) else none
      | _ => none

/-- Past what stands between a date and a time. -/
def pastDateGap (cs : List Char) : Option (List Char) :=
  match cs with
  | 'T' :: rest | 't' :: rest => some rest
  | c :: _ => if isGapChar c then some (cs.dropWhile isGapChar) else none
  | [] => none

/-- The parts of a date that may have a time of day. -/
def dateParts? (cs : List Char) : Option DateParts := do
  let (year, cs) ← someDigits 4 4 cs
  let (month, cs) ← someDigits 1 2 (← past '-' cs)
  let (day, cs) ← someDigits 1 2 (← past '-' cs)
  if cs.isEmpty then return { year, month, day }
  let (hour, cs) ← someDigits 1 2 (← pastDateGap cs)
  let (minute, cs) ← someDigits 2 2 (← past ':' cs)
  let (second, cs) ← someDigits 2 2 (← past ':' cs)
  let (fraction, cs) := match cs with
    | '.' :: rest => rest.span Char.isDigit
    | cs => ([], cs)
  let zone ← zone? cs
  return { year, month, day, time := some (hour, minute, second, fraction), zone }

/-- A date alone has two digits for its month and its day. -/
def isDate (cs : List Char) : Bool :=
  match dateParts? cs with
  | some p => p.time.isSome || cs.length == 10
  | none => false

/-- The tag of a plain scalar by its form. -/
def ofPlain (s : String) : Tag :=
  let cs := s.toList
  if boolWords.contains s then bool
  else if isFloat cs then float
  else if isInt cs then int
  else if s == "<<" then merge
  else if nullWords.contains s then null
  else if isDate cs then timestamp
  else if s == "=" then value
  else text

end Tag

end Qualify.Yaml
