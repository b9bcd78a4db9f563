import Qualify.Json
import Qualify.Text.Digit

/-!
# Reading JSON

A reader that takes one document and reports the first fault with its place. Besides standard JSON
it takes `NaN`, `Infinity` and `-Infinity` as numbers.
-/

namespace Qualify.Json

/-- What is wrong with a text as JSON. -/
inductive Complaint where
  | byteOrderMark
  | value
  | propertyName
  | colon
  | comma
  | extraData
  | unterminated
  | controlCharacter
  | escape
  | unicodeEscape
deriving Repr, DecidableEq

def Complaint.text : Complaint → String
  | .byteOrderMark => "Unexpected UTF-8 BOM (decode using utf-8-sig)"
  | .value => "Expecting value"
  | .propertyName => "Expecting property name enclosed in double quotes"
  | .colon => "Expecting ':' delimiter"
  | .comma => "Expecting ',' delimiter"
  | .extraData => "Extra data"
  | .unterminated => "Unterminated string starting at"
  | .controlCharacter => "Invalid control character at"
  | .escape => "Invalid \\escape"
  | .unicodeEscape => "Invalid \\uXXXX escape"

/-- Why a text could not be read: a complaint about the text that starts with these many characters
left, or an integer with too many digits. -/
inductive ReadFault where
  | complaint (c : Complaint) (left : Nat)
  | longInteger (digits : Nat)
deriving Repr, DecidableEq

/-- A complaint about the text that starts here. -/
def complain {α : Type} (c : Complaint) (here : List Char) : Except ReadFault α :=
  .error (.complaint c here.length)

def skipSpace (cs : List Char) : List Char :=
  cs.dropWhile fun c => c == ' ' || c == '\t' || c == '\n' || c == '\r'

/-- The number that four hexadecimal digits denote. -/
def hexQuad? : List Char → Option (Nat × List Char)
  | a :: b :: c :: d :: rest => do
    let a ← Text.hexValue? a
    let b ← Text.hexValue? b
    let c ← Text.hexValue? c
    let d ← Text.hexValue? d
    return (((a * 16 + b) * 16 + c) * 16 + d, rest)
  | _ => none

def simpleEscape? : Char → Option Char
  | '"' => some '"'
  | '\\' => some '\\'
  | '/' => some '/'
  | 'b' => some '\x08'
  | 'f' => some '\x0c'
  | 'n' => some '\n'
  | 'r' => some '\r'
  | 't' => some '\t'
  | _ => none

def isHighSurrogate (n : Nat) : Bool := 0xD800 ≤ n && n ≤ 0xDBFF

def isLowSurrogate (n : Nat) : Bool := 0xDC00 ≤ n && n ≤ 0xDFFF

/-- A code point as a character; half of a pair on its own becomes the replacement character. -/
def charOf (n : Nat) : Char :=
  if isHighSurrogate n || isLowSurrogate n then '\uFFFD' else Char.ofNat n

/-- The character of an escape with four digits. Two escapes may make up one character. -/
def unicodeEscape (here cs : List Char) : Except ReadFault (Char × List Char) :=
  -- the closing quote has to follow somewhere
  if cs.length ≤ 4 then complain .unicodeEscape here
  else match hexQuad? cs with
    | none => complain .unicodeEscape here
    | some (n, rest) =>
      if isHighSurrogate n ∧ 6 < rest.length then
        match rest with
        | '\\' :: 'u' :: rest' =>
          match hexQuad? rest' with
          | none => complain .unicodeEscape rest.tail
          | some (m, rest'') =>
            if isLowSurrogate m then
              .ok (Char.ofNat (0x10000 + (n - 0xD800) * 0x400 + (m - 0xDC00)), rest'')
            else .ok (charOf n, rest)
        | _ => .ok (charOf n, rest)
      else .ok (charOf n, rest)

/-- The characters of a string up to its closing quote. -/
def stringBody (opening : List Char) :
    (fuel : Nat) → List Char → List Char → Except ReadFault (String × List Char)
  | 0, _, _ => complain .unterminated opening
  | fuel + 1, acc, cs =>
    match cs with
    | [] => complain .unterminated opening
    | '"' :: rest => .ok (String.ofList acc.reverse, rest)
    | '\\' :: rest =>
      match rest with
      | [] => complain .unterminated opening
      | 'u' :: rest' => do
        let (c, rest'') ← unicodeEscape rest rest'
        stringBody opening fuel (c :: acc) rest''
      | c :: rest' =>
        match simpleEscape? c with
        | some c => stringBody opening fuel (c :: acc) rest'
        | none => complain .escape cs
    | c :: rest =>
      if c.toNat < 0x20 then complain .controlCharacter cs
      else stringBody opening fuel (c :: acc) rest

/-- The string whose opening quote starts the text. -/
def string (cs : List Char) : Except ReadFault (String × List Char) :=
  stringBody cs (cs.length + 1) [] cs.tail

/-- The digits after a point, if there are any. -/
def fractionPart (cs : List Char) : List Nat × List Char :=
  match cs with
  | '.' :: rest =>
    match Decimal.takeDigits rest with
    | ([], _) => ([], cs)
    | r => r
  | _ => ([], cs)

/-- The exponent after a letter, if it has digits. -/
def exponentPart (cs : List Char) : Option Int × List Char :=
  match cs with
  | c :: rest =>
    if c = 'e' ∨ c = 'E' then
      let (s, rest) := Decimal.takeSign rest
      match Decimal.takeDigits rest with
      | ([], _) => (none, cs)
      | (ds, rest) =>
        (some (if s then -(Text.numberOfDigits ds : Int) else Text.numberOfDigits ds), rest)
    else (none, cs)
  | [] => (none, cs)

/-- A number after its sign. -/
def unsigned (here : List Char) (s : Bool) (cs : List Char) : Except ReadFault (Json × List Char) :=
  let (whole, rest) := match cs with
    | '0' :: rest => ([0], rest)
    | cs => Decimal.takeDigits cs
  if whole.isEmpty then complain .value here
  else
    let (fraction, rest) := fractionPart rest
    let (exponent, rest) := exponentPart rest
    if fraction.isEmpty && exponent.isNone then
      if digitLimit < whole.length then .error (.longInteger whole.length)
      else
        let n := Text.numberOfDigits whole
        .ok (.int (if s then -(n : Int) else n), rest)
    else
      let c := Text.numberOfDigits (whole ++ fraction)
      .ok (.float (.ofDecimal (.finite s c (exponent.getD 0 - fraction.length))), rest)

/-- The literal names, with what they stand for. -/
def literals : List (List Char × Json) :=
  [("null".toList, .null), ("true".toList, .bool true), ("false".toList, .bool false),
   ("NaN".toList, .float .nan), ("Infinity".toList, .float (.infinite false)),
   ("-Infinity".toList, .float (.infinite true))]

/-- A literal name or a number. -/
def scalar (cs : List Char) : Except ReadFault (Json × List Char) :=
  match literals.find? fun l => l.1.isPrefixOf cs with
  | some (name, j) => .ok (j, cs.drop name.length)
  | none =>
    match cs with
    | '-' :: rest => unsigned cs true rest
    | cs => unsigned cs false cs

mutual

/-- One value at the start of the text. -/
def value (fuel : Nat) (cs : List Char) : Except ReadFault (Json × List Char) :=
  match fuel with
  | 0 => complain .value cs
  | fuel + 1 =>
    match cs with
    | '"' :: _ => do
      let (s, rest) ← string cs
      return (.text s, rest)
    | '[' :: rest =>
      match skipSpace rest with
      | ']' :: rest => .ok (.array [], rest)
      | rest => elements fuel [] rest
    | '\x7b' :: rest =>
      match skipSpace rest with
      | '\x7d' :: rest => .ok (.object [], rest)
      | rest => members fuel [] rest
    | cs => scalar cs
termination_by structural fuel

/-- The elements of an array from one of them on. -/
def elements (fuel : Nat) (before : List Json) (cs : List Char) :
    Except ReadFault (Json × List Char) :=
  match fuel with
  | 0 => complain .value cs
  | fuel + 1 => do
    let (j, rest) ← value fuel cs
    match skipSpace rest with
    | ']' :: rest => return (.array (before ++ [j]), rest)
    | ',' :: rest => elements fuel (before ++ [j]) (skipSpace rest)
    | rest => complain .comma rest
termination_by structural fuel

/-- The entries of an object from one of them on. -/
def members (fuel : Nat) (before : List (String × Json)) (cs : List Char) :
    Except ReadFault (Json × List Char) :=
  match fuel with
  | 0 => complain .value cs
  | fuel + 1 =>
    match cs with
    | '"' :: _ => do
      let (key, rest) ← string cs
      match skipSpace rest with
      | ':' :: rest =>
        let (j, rest) ← value fuel (skipSpace rest)
        match skipSpace rest with
        | '\x7d' :: rest => return (.object (before ++ [(key, j)]), rest)
        | ',' :: rest => members fuel (before ++ [(key, j)]) (skipSpace rest)
        | rest => complain .comma rest
      | rest => complain .colon rest
    | cs => complain .propertyName cs
termination_by structural fuel

end

/-- The one document that a text holds. -/
def read (cs : List Char) : Except ReadFault Json :=
  match cs with
  | '\uFEFF' :: _ => complain .byteOrderMark cs
  | _ => do
    let (j, rest) ← value (2 * cs.length + 2) (skipSpace cs)
    match skipSpace rest with
    | [] => return j
    | rest => complain .extraData rest

/-- The place of a fault as line, column and offset. -/
def placeText (cs : List Char) (offset : Nat) : String :=
  let before := cs.take offset
  let line := before.count '\n' + 1
  let column := (before.reverse.takeWhile (· != '\n')).length + 1
  s!"line {line} column {column} (char {offset})"

/-- A complaint with its place in the text. -/
def complaintText (cs : List Char) (c : Complaint) (left : Nat) : String :=
  c.text ++ ": " ++ placeText cs (cs.length - left)

end Qualify.Json
