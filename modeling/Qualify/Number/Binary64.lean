import Qualify.Number.Decimal

/-!
# Binary64 numbers

The numbers of the 64-bit binary format as exact values: a significand below `2 ^ 53` and a power
of two. Reading rounds to the nearest number, a tie going to the even significand; comparison is of
the exact values, so that it can be mixed with integers and decimals.
-/

namespace Qualify

/-- A binary64 number: `± significand * 2 ^ exponent`, an infinity, or no number. -/
inductive Binary64 where
  | finite (negative : Bool) (significand : Nat) (exponent : Int)
  | infinite (negative : Bool)
  | nan
deriving Repr, DecidableEq, Inhabited

namespace Binary64

/-- The exponent of the smallest numbers. -/
def leastExponent : Int := -1074

/-- The exponent of the largest numbers. -/
def largestExponent : Int := 971

def zero : Binary64 := .finite false 0 leastExponent

/-- `m * 2 ^ e` as a ratio of natural numbers. -/
def scaledRatio (m : Nat) (e : Int) : Nat × Nat :=
  match e with
  | .ofNat k => (m * twoTo k, 1)
  | .negSucc k => (m, twoTo (k + 1))

/-- The exponent of the number nearest to a ratio: the greatest one that leaves the significand at
least `2 ^ 52`, but none below the least. -/
def exponentFor (num den : Nat) : Int :=
  let guess : Int := (num.log2 : Int) - den.log2 - 52
  let (a, b) := scaledRatio den guess
  -- the guess is right or one too large
  max leastExponent (if num * b < a * twoTo 52 then guess - 1 else guess)

/-- The quotient, a tie going to the even neighbour. -/
def evenDiv (num den : Nat) : Nat :=
  let q := num / den
  let r := num % den
  if 2 * r < den then q else if den < 2 * r then q + 1 else if q % 2 = 0 then q else q + 1

/-- The number nearest to `± num / den`. -/
def ofRatio (s : Bool) (num den : Nat) : Binary64 :=
  if num = 0 then .finite s 0 leastExponent
  else
    let e := exponentFor num den
    let (a, b) := scaledRatio den e
    let m := evenDiv (num * b) a
    let (m, e) := if m = twoTo 53 then (twoTo 52, e + 1) else (m, e)
    if largestExponent < e then .infinite s else .finite s m e

/-- The number nearest to a decimal. Decimals past either end of the format are told by their
leading digit's place. -/
def ofDecimal : Decimal → Binary64
  | .nan .. => .nan
  | .infinite s => .infinite s
  | .finite s c e =>
    if c = 0 then .finite s 0 leastExponent
    else
      let adjusted : Int := e + digitCount c
      if 320 < adjusted then .infinite s
      else if adjusted < -340 then .finite s 0 leastExponent
      else match e with
        | .ofNat k => ofRatio s (c * tenTo k) 1
        | .negSucc k => ofRatio s c (tenTo (k + 1))

/-- The number nearest to an integer. -/
def ofInt (n : Int) : Binary64 := ofRatio (n < 0) n.natAbs 1

/-- The number nearest to an integer, none if that is past the largest. -/
def ofInt? (n : Int) : Option Binary64 :=
  match ofInt n with
  | .infinite _ => none
  | x => some x

/-- The number nearest to the exact sum. -/
def add : Binary64 → Binary64 → Binary64
  | .nan, _ | _, .nan => .nan
  | .infinite s, .infinite t => if s = t then .infinite s else .nan
  | .infinite s, _ | _, .infinite s => .infinite s
  | .finite s m e, .finite t n f =>
    let d := min e f
    let signed (s : Bool) (m : Nat) : Int := if s then -(m : Int) else m
    let sum := signed s (m * twoTo (e - d).toNat) + signed t (n * twoTo (f - d).toNat)
    if sum = 0 then .finite (s && t) 0 leastExponent
    else
      let (a, b) := scaledRatio sum.natAbs d
      ofRatio (sum < 0) a b

/-- The number nearest to the exact product. -/
def mul : Binary64 → Binary64 → Binary64
  | .nan, _ | _, .nan => .nan
  | .infinite s, .infinite t => .infinite (s != t)
  | .infinite s, .finite t m _ | .finite t m _, .infinite s =>
    if m = 0 then .nan else .infinite (s != t)
  | .finite s m e, .finite t n f =>
    let (a, b) := scaledRatio (m * n) (e + f)
    ofRatio (s != t) a b

/-- The number with the other sign. -/
def neg : Binary64 → Binary64
  | .finite s m e => .finite (!s) m e
  | .infinite s => .infinite (!s)
  | .nan => .nan

/-- The exact value of a number. -/
def toDecimal : Binary64 → Decimal
  | .nan => .nan false false 0
  | .infinite s => .infinite s
  | .finite s m e =>
    match e with
    | .ofNat k => .finite s (m * twoTo k) 0
    | .negSucc k => .finite s (m * Nat.pow 5 (k + 1)) (-(k + 1 : Int))

def isNaN : Binary64 → Bool
  | .nan => true
  | _ => false

def isFinite : Binary64 → Bool
  | .finite .. => true
  | _ => false

/-- The number without its sign. -/
def abs : Binary64 → Binary64
  | .finite _ m e => .finite false m e
  | .infinite _ => .infinite false
  | .nan => .nan

/-- The order of the values, none if either is no number. -/
def cmp? (x y : Binary64) : Option Ordering := x.toDecimal.cmp? y.toDecimal

/-- Is the first value at most the second? Nothing holds of what is no number. -/
def le (x y : Binary64) : Bool :=
  match x.cmp? y with
  | some .lt | some .eq => true
  | _ => false

/-- The integer that a number is, if it is one. -/
def toInt? : Binary64 → Option Int
  | .finite s m e =>
    let signed (n : Nat) : Int := if s then -(n : Int) else n
    match e with
    | .ofNat k => some (signed (m * twoTo k))
    | .negSucc k => if m % twoTo (k + 1) = 0 then some (signed (m / twoTo (k + 1))) else none
  | _ => none

end Binary64

end Qualify
