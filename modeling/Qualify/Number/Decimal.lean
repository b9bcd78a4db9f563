import Qualify.Number.Power
import Qualify.Text.Blank
import Qualify.Text.Digit

/-!
# Decimals

Signed decimal numerals of any length with an exponent, read exactly as they are written, and the
two operations that round: the product to 28 digits, a half going to the even neighbour, and the
nearest integer of at most 28 digits, a half going away from zero.
-/

namespace Qualify

/-- A decimal: `± coefficient * 10 ^ exponent`, an infinity, or no number. -/
inductive Decimal where
  | finite (negative : Bool) (coefficient : Nat) (exponent : Int)
  | infinite (negative : Bool)
  | nan (negative signaling : Bool) (payload : Nat)
deriving Repr, DecidableEq, Inhabited

/-- What stops decimal arithmetic. -/
inductive ArithmeticFault where
  /-- The text is no decimal. -/
  | conversionSyntax
  /-- The result has no integer value of at most 28 digits, or an operand is signaling. -/
  | invalidOperation
  /-- The product's exponent is past the largest one. -/
  | overflow
  /-- No number was to become an integer. -/
  | nanToInteger
deriving Repr, DecidableEq, Inhabited

/-- How many decimal digits a natural number is written with. -/
def digitCount (n : Nat) : Nat := (Nat.toDigits 10 n).length

namespace Decimal

/-- Significant digits of a result. -/
def precision : Nat := 28

/-- The largest adjusted exponent of a product. -/
def largestExponent : Int := 999999

/-- The largest adjusted exponent that can be written. -/
def largestWritten : Int := 999999999999999999

/-- The least exponent that can be written. -/
def leastWritten : Int := -1999999999999999997

def ofInt (n : Int) : Decimal := .finite (n < 0) n.natAbs 0

def zero : Decimal := .finite false 0 0

/-- The same decimal with the other sign. -/
def neg : Decimal → Decimal
  | .finite s c e => .finite (!s) c e
  | .infinite s => .infinite (!s)
  | .nan s q p => .nan (!s) q p

def isNaN : Decimal → Bool
  | .nan .. => true
  | _ => false

def isSignaling : Decimal → Bool
  | .nan _ q _ => q
  | _ => false

def isFinite : Decimal → Bool
  | .finite .. => true
  | _ => false

/-! ## Comparison -/

/-- The order of `a * 10 ^ gap` and `b`. A gap that outgrows the bits of `b` settles it without
writing the power out. -/
def compareShifted (a gap b : Nat) : Ordering :=
  if a = 0 then compare 0 b
  else if b.log2 < gap then .gt
  else compare (a * tenTo gap) b

/-- The order of two magnitudes. -/
def compareMagnitude (c : Nat) (e : Int) (c' : Nat) (e' : Int) : Ordering :=
  if e' ≤ e then compareShifted c (e - e').toNat c'
  else (compareShifted c' (e' - e).toNat c).swap

/-- The order of two decimals, none if either is no number. -/
def cmp? : Decimal → Decimal → Option Ordering
  | .nan .., _ | _, .nan .. => none
  | .infinite s, .infinite s' => some (compare s' s)
  | .infinite s, .finite .. => some (if s then .lt else .gt)
  | .finite .., .infinite s => some (if s then .gt else .lt)
  | .finite s c e, .finite s' c' e' =>
    some <|
      if c = 0 ∧ c' = 0 then .eq
      else match s, s' with
        | false, false => compareMagnitude c e c' e'
        | true, true => compareMagnitude c' e' c e
        | false, true => .gt
        | true, false => .lt

/-! ## Rounding -/

/-- The integer nearest to `c * 10 ^ e` for a negative exponent `-(k + 1)`, a half going up. -/
def roundedQuotient (c k : Nat) : Nat :=
  if c.log2 < k then 0
  else (2 * c + tenTo (k + 1)) / (2 * tenTo (k + 1))

/-- The integer of at most 28 digits nearest to a decimal, a half going away from zero. -/
def toInteger : Decimal → Except ArithmeticFault Int
  | .nan _ signaling _ => .error (if signaling then .invalidOperation else .nanToInteger)
  | .infinite _ => .error .invalidOperation
  | .finite s c e =>
    let magnitude : Option Nat :=
      match e with
      | .ofNat k => if c = 0 then some 0 else if k < precision then some (c * tenTo k) else none
      | .negSucc k => some (roundedQuotient c k)
    match magnitude with
    | some m =>
      if m < tenTo precision then .ok (if s then -(m : Int) else m) else .error .invalidOperation
    | none => .error .invalidOperation

/-- The quotient of `c` by `10 ^ k`, a half going to the even neighbour. -/
def evenQuotient (c k : Nat) : Nat :=
  let d := tenTo k
  let q := c / d
  let r := c % d
  if 2 * r < d then q else if d < 2 * r then q + 1 else if q % 2 = 0 then q else q + 1

/-- A finite decimal with its coefficient rounded to 28 digits. -/
def rounded (s : Bool) (c : Nat) (e : Int) : Except ArithmeticFault Decimal :=
  let excess := digitCount c - precision
  let c' := evenQuotient c excess
  let e' := e + excess
  if c' ≠ 0 ∧ largestExponent < e' + (digitCount c' : Int) - 1 then .error .overflow
  else .ok (.finite s c' e')

/-- The product of two decimals, rounded to 28 digits. -/
def mul : Decimal → Decimal → Except ArithmeticFault Decimal
  | .nan s true p, _ => let _ := (s, p); .error .invalidOperation
  | .nan s false p, b => if b.isSignaling then .error .invalidOperation else .ok (.nan s false p)
  | .infinite _, .nan _ true _ | .finite .., .nan _ true _ => .error .invalidOperation
  | .infinite _, .nan s false p | .finite .., .nan s false p => .ok (.nan s false p)
  | .infinite s, .infinite s' => .ok (.infinite (s != s'))
  | .infinite s, .finite s' c _ | .finite s' c _, .infinite s =>
    if c = 0 then .error .invalidOperation else .ok (.infinite (s != s'))
  | .finite s c e, .finite s' c' e' => rounded (s != s') (c * c') (e + e')

/-! ## Reading -/

/-- A text as plain characters: blanks as spaces, digits of any script as ASCII digits, no
underscores; none if some other character is not ASCII. -/
def plainText (cs : List Char) : Option (List Char) :=
  ((Text.trim cs).filter (· != '_')).mapM fun c =>
    if c.toNat ≤ 127 then some c
    else if Text.isBlank c then some ' '
    else (Text.decimalValue? c).map (Nat.digitChar ·)

/-- The leading ASCII digits as numbers, with the rest. -/
def takeDigits (cs : List Char) : List Nat × List Char :=
  ((cs.takeWhile Char.isDigit).map fun c => c.toNat - '0'.toNat, cs.dropWhile Char.isDigit)

/-- A sign, if there is one; true is minus. -/
def takeSign : List Char → Bool × List Char
  | '-' :: cs => (true, cs)
  | '+' :: cs => (false, cs)
  | cs => (false, cs)

/-- The exponent part of a numeral: nothing, or a letter, a sign and digits. -/
def readExponent : List Char → Option Int
  | [] => some 0
  | c :: cs =>
    if c = 'e' then
      let (s, cs) := takeSign cs
      match takeDigits cs with
      | ([], _) => none
      | (ds, []) => some (if s then -(Text.numberOfDigits ds : Int) else Text.numberOfDigits ds)
      | _ => none
    else none

/-- Can a finite decimal be written with these parts? -/
def writable (c : Nat) (e : Int) : Bool :=
  leastWritten ≤ e &&
    (if c = 0 then e ≤ largestWritten else e + (digitCount c : Int) - 1 ≤ largestWritten)

/-- The coefficient and exponent of an unsigned numeral: digits with an optional point among them,
and an optional exponent. -/
def numeralParts? (cs : List Char) : Option (Nat × Int) :=
  let (whole, rest) := takeDigits cs
  let (fraction, rest) := match rest with
    | '.' :: rest => takeDigits rest
    | rest => ([], rest)
  if whole.isEmpty && fraction.isEmpty then none
  else (readExponent rest).map fun x =>
    (Text.numberOfDigits (whole ++ fraction), x - fraction.length)

/-- An unsigned numeral, if it can be written again. -/
def readNumeral (s : Bool) (cs : List Char) : Except ArithmeticFault Decimal :=
  match numeralParts? cs with
  | none => .error .conversionSyntax
  | some (c, e) => if writable c e then .ok (.finite s c e) else .error .invalidOperation

/-- The digits after the letters of a value that is no number. -/
def readPayload (s signaling : Bool) (cs : List Char) : Except ArithmeticFault Decimal :=
  match takeDigits cs with
  | (ds, []) => .ok (.nan s signaling (Text.numberOfDigits ds))
  | _ => .error .conversionSyntax

/-- A decimal from its text. Case, blanks at the ends and underscores do not matter. -/
def ofText (text : String) : Except ArithmeticFault Decimal :=
  match plainText text.toList with
  | none => .error .conversionSyntax
  | some cs =>
    let (s, cs) := takeSign (cs.map Char.toLower)
    match cs with
    | 'i' :: 'n' :: 'f' :: rest =>
      if rest = [] ∨ rest = "inity".toList then .ok (.infinite s) else .error .conversionSyntax
    | 'n' :: 'a' :: 'n' :: rest => readPayload s false rest
    | 's' :: 'n' :: 'a' :: 'n' :: rest => readPayload s true rest
    | cs => readNumeral s cs

/-! ## Writing -/

def signText (s : Bool) : String := if s then "-" else ""

/-- A row of digits with a point before the last `places` of them, zeros filled in. -/
def pointed (digits : String) (places : Nat) : String :=
  let cs := digits.toList
  let cs := List.replicate (places + 1 - cs.length) '0' ++ cs
  if places = 0 then String.ofList cs
  else String.ofList (cs.take (cs.length - places) ++ '.' :: cs.drop (cs.length - places))

/-- A decimal is written with a point if its exponent is not positive and its leading digit stands
no more than six places behind the point, else with an exponent. -/
def text : Decimal → String
  | .infinite s => signText s ++ "Infinity"
  | .nan s signaling payload =>
    signText s ++ (if signaling then "sNaN" else "NaN") ++
      (if payload = 0 then "" else toString payload)
  | .finite s c e =>
    let digits := toString c
    let adjusted : Int := e + digits.length - 1
    if e ≤ 0 ∧ -6 ≤ adjusted then signText s ++ pointed digits e.natAbs
    else
      signText s ++ pointed digits (digits.length - 1) ++ "E" ++
        (if adjusted < 0 then "-" else "+") ++ toString adjusted.natAbs

end Decimal

end Qualify
