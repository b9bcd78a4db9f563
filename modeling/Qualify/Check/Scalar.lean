import Qualify.Check
import Qualify.Text.Pieces

/-!
# Reading scalars

Scalars are read leniently: numbers and truth values may be written as text, integers as numbers
without a fraction. Texts are never made from anything but texts and bytes that encode one.
-/

namespace Qualify.Check

/-- The text that a text or row of bytes holds. -/
def textOf? : Value → Option (Except Complaint String)
  | .text s => some (.ok s)
  | .bytes bs =>
    match String.fromUTF8? ⟨bs.toArray⟩ with
    | some s => some (.ok s)
    | none => some (.error .undecodableText)
  | _ => none

/-- A text as it is. -/
def text (v : Value) : Checked String :=
  match textOf? v with
  | some (.ok s) => .valid s
  | some (.error c) => .refuse c
  | none => .refuse .noText

def nonemptyText (v : Value) : Checked String :=
  (text v).andThen fun s => if s.isEmpty then .refuse .emptyText else .valid s

/-- An identifier: the text of anything but null. -/
def identifier (v : Value) : Checked String :=
  if v.isNull then .refuse .noText else .ofExcept v.toText

/-! ## Numerals -/

/-- The digits of a numeral with its underscores taken out. They may stand neither at an end nor
side by side. -/
def withoutUnderscores (cs : List Char) : Option (List Char) :=
  if !cs.contains '_' || cs.head? = some '_' || cs.getLast? = some '_' ||
      Text.occursIn ['_', '_'] cs then none
  else some (cs.filter (· != '_'))

/-- Lower case of the letters of the basic alphabet. -/
def plainLower (cs : List Char) : List Char := cs.map Char.toLower

/-- A number in digits with an optional point and exponent, or one of the names of the others. -/
def numeral? (cs : List Char) : Option Binary64 :=
  let (s, rest) := Decimal.takeSign cs
  let word := plainLower rest
  if word = "inf".toList ∨ word = "infinity".toList then some (.infinite s)
  else if word = "nan".toList then some .nan
  else (Decimal.numeralParts? word).map fun (c, e) => .ofDecimal (.finite s c e)

/-- A number in a text, blanks around it allowed, or underscores between its digits. -/
def numberIn? (cs : List Char) : Option Binary64 :=
  (numeral? (Text.trimBy Text.isSpaceProperty cs)).or
    ((withoutUnderscores cs).bind numeral?)

def number (v : Value) : Checked Binary64 :=
  match v with
  | .bool b => .valid (.ofRatio false (if b then 1 else 0) 1)
  | .int n =>
    match Binary64.ofInt? n with
    | some x => .valid x
    | none => .refuse .noNumber
  | .float x => .valid x
  | .decimal d => if d.isSignaling then .refuse .noNumber else .valid (.ofDecimal d)
  | v =>
    match textOf? v with
    | some (.ok s) =>
      match numberIn? s.toList with
      | some x => .valid x
      | none => .refuse .unreadableNumber
    | some (.error _) => .refuse .unreadableNumber
    | none => .refuse .noNumber

/-- A number that is not negative. -/
def nonnegative (v : Value) : Checked { x : Binary64 // Binary64.zero.le x } :=
  (number v).andThen fun x =>
    if h : Binary64.zero.le x then .valid ⟨x, h⟩ else .refuse .belowZero

/-! ## Integers -/

/-- Past the zeros at the front, among which underscores may stand. One zero stays before a point
and where nothing else is left. -/
def pastZeros (before : Char) : List Char → Option (List Char)
  | [] => some [before]
  | '.' :: cs => some (before :: '.' :: cs)
  | c :: cs =>
    if c = '0' ∨ c = '_' then pastZeros c cs
    else if '1' ≤ c ∧ c ≤ '9' then some (c :: cs)
    else none

def withoutZeros : List Char → Option (List Char)
  | '0' :: cs => pastZeros '0' cs
  | c :: cs => if ('1' ≤ c ∧ c ≤ '9') ∨ c = '-' then some (c :: cs) else none
  | [] => none

/-- The text up to a point that only zeros follow. -/
def withoutFraction (cs : List Char) : List Char :=
  let tail := cs.dropWhile (· != '.')
  if 1 < tail.length ∧ tail.tail.all (· == '0') then cs.takeWhile (· != '.') else cs

/-- The numeral in a text, cleared of what integers may be written with. -/
def integerDigits? (cs : List Char) : Option (List Char) :=
  let cs := Text.trimBy Text.isSpaceProperty cs
  let unsigned := match cs with
    | '+' :: '-' :: _ => none
    | '+' :: cs => some cs
    | cs => some cs
  (unsigned.bind withoutZeros).map fun cs =>
    let cs := withoutFraction cs
    (withoutUnderscores cs).getD cs

/-- An integer in a text. -/
def integerIn (cs : List Char) : Except Complaint Int :=
  match integerDigits? cs with
  | none => .error .unreadableInteger
  | some cs =>
    let (negative, ds) := match cs with
      | '-' :: ds => (true, ds)
      | ds => (false, ds)
    if ds.isEmpty || !ds.all Char.isDigit || (ds.head? = some '0' && 1 < ds.length) then
      .error .unreadableInteger
    else if digitLimit < ds.length then .error .longInteger
    else
      let n : Int := Text.numberOfDigits (ds.map fun c => c.toNat - '0'.toNat)
      .ok (if negative then -n else n)

/-- An integer from a decimal without a fraction. -/
def wholeDecimal (d : Decimal) : Except Complaint Int :=
  match d with
  | .finite s c e =>
    let signed (n : Nat) : Int := if s then -(n : Int) else n
    if c = 0 then .ok 0
    else match e with
      | .ofNat k => .ok (signed (c * tenTo k))
      | .negSucc k =>
        if digitCount c < k + 1 ∨ c % tenTo (k + 1) ≠ 0 then .error .fractionalInteger
        else .ok (signed (c / tenTo (k + 1)))
  | _ => .error .infiniteInteger

/-- Integers that are read from binary numbers are smaller than this. -/
def wordLimit : Nat := twoTo 63

/-- An integer from a binary number without a fraction. -/
def wholeNumber (x : Binary64) : Except Complaint Int :=
  if !x.isFinite then .error .infiniteInteger
  else match x.toInt? with
    | none => .error .fractionalInteger
    | some n => if n.natAbs < wordLimit then .ok n else .error .longInteger

def integer (v : Value) : Checked Int :=
  let result : Except Complaint Int := match v with
    | .bool b => .ok (if b then 1 else 0)
    | .int n => .ok n
    | .float x => wholeNumber x
    | .decimal d => wholeDecimal d
    | v =>
      match textOf? v with
      | some (.ok s) => integerIn s.toList
      | some (.error _) => .error .unreadableInteger
      | none => .error .noInteger
  match result with
  | .ok n => .valid n
  | .error c => .refuse c

/-! ## Truth values -/

def trueWords : List String := ["1", "t", "true", "y", "yes", "on"]
def falseWords : List String := ["0", "f", "false", "n", "no", "off"]

def boolean (v : Value) : Checked Bool :=
  let ofInt (n : Int) : Checked Bool :=
    if n = 0 then .valid false else if n = 1 then .valid true else .refuse .unreadableBoolean
  match v with
  | .bool b => .valid b
  | .int n =>
    if -(wordLimit : Int) ≤ n ∧ n < wordLimit then ofInt n else .refuse .noBoolean
  | .float x =>
    match wholeNumber x with
    | .ok n => ofInt n
    | .error _ => .refuse .noBoolean
  | .decimal d =>
    match wholeNumber (.ofDecimal d) with
    | .ok n => ofInt n
    | .error _ => .refuse .noBoolean
  | v =>
    match textOf? v with
    | some (.ok s) =>
      let word := String.ofList (plainLower s.toList)
      if trueWords.contains word then .valid true
      else if falseWords.contains word then .valid false
      else .refuse .unreadableBoolean
    | some (.error _) => .refuse .unreadableBoolean
    | none => .refuse .noBoolean

end Qualify.Check
