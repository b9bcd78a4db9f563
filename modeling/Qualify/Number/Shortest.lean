import Qualify.Number.Binary64

/-!
# Shortest text of a binary64 number

A number is written with the fewest digits that read back as the same number, and of those with the
digits nearest to its value. The point stands among the digits or the zeros next to them while the
leading digit is at most four places behind it or sixteen before it; farther out there is an
exponent of at least two digits.
-/

namespace Qualify.Binary64

/-- Does `c * 10 ^ k` lie between the two ratios over `den`, ends included or not? -/
def within (inclusive : Bool) (low high den c : Nat) (k : Int) : Bool :=
  let (p, q) := match k with
    | .ofNat k => (c * tenTo k, 1)
    | .negSucc k => (c, tenTo (k + 1))
  -- low / den ≤ p / q ≤ high / den
  if inclusive then low * q ≤ p * den && p * den ≤ high * q
  else low * q < p * den && p * den < high * q

/-- Of two neighbouring points of the grid `10 ^ k`, the one nearer to `num / den`; the even one
if they are equally near. -/
def nearer (num den c : Nat) (k : Int) : Nat :=
  let (n, d) := match k with
    | .ofNat k => (num, den * tenTo k)
    | .negSucc k => (num * tenTo (k + 1), den)
  -- the middle of the two points is (2 c + 1) / 2
  match compare (2 * n) ((2 * c + 1) * d) with
  | .lt => c
  | .gt => c + 1
  | .eq => if c % 2 = 0 then c else c + 1

/-- The largest grid point of `10 ^ k` that is not above `num / den`. -/
def gridFloor (num den : Nat) (k : Int) : Nat :=
  match k with
  | .ofNat k => num / (den * tenTo k)
  | .negSucc k => num * tenTo (k + 1) / den

/-- The place of the leading digit of `num / den`: `p` with `10 ^ (p - 1) ≤ num / den < 10 ^ p`.
Shifting by 340 places brings every binary64 number above one. -/
def leadingPlace (num den : Nat) : Int := (digitCount (num * tenTo 340 / den) : Int) - 340

/-- The first grid, from coarse to fine, with a point that reads back, and that point. -/
def searchGrid (inclusive : Bool) (num low high den : Nat) (place : Int) :
    (digits fuel : Nat) → Nat × Int
  | digits, 0 => (gridFloor num den (place - digits), place - digits)
  | digits, fuel + 1 =>
    let k := place - digits
    let c := gridFloor num den k
    let near := nearer num den c k
    let other := if near = c then c + 1 else c
    if within inclusive low high den near k then (near, k)
    else if within inclusive low high den other k then (other, k)
    else searchGrid inclusive num low high den place (digits + 1) fuel

/-- The shortest decimal `c * 10 ^ k` that reads back as `m * 2 ^ e`, for a nonzero significand. -/
def shortest (m : Nat) (e : Int) : Nat × Int :=
  -- everything over a quarter of the last place
  let (num, den) := scaledRatio (4 * m) (e - 2)
  let (unit, _) := scaledRatio 1 (e - 2)
  let high := num + 2 * unit
  let low := if m = twoTo 52 ∧ leastExponent < e then num - unit else num - 2 * unit
  searchGrid (m % 2 = 0) num low high den (leadingPlace num den) 1 17

/-- Digits without the zeros at their end, and how many zeros there were. -/
def stripZeros (cs : List Char) : List Char × Nat :=
  let zeros := (cs.reverse.takeWhile (· == '0')).length
  (cs.take (cs.length - zeros), zeros)

/-- The text of `0.digits * 10 ^ place`. -/
def layout (digits : List Char) (place : Int) : String :=
  if -4 < place ∧ place ≤ 16 then
    if place ≤ 0 then
      String.ofList ("0.".toList ++ List.replicate place.natAbs '0' ++ digits)
    else
      let p := place.toNat
      if digits.length ≤ p then
        String.ofList (digits ++ List.replicate (p - digits.length) '0' ++ ".0".toList)
      else String.ofList (digits.take p ++ '.' :: digits.drop p)
  else
    let x := place - 1
    let mantissa := match digits with
      | [] => []
      | [d] => [d]
      | d :: ds => d :: '.' :: ds
    let magnitude := toString x.natAbs
    String.ofList mantissa ++ "e" ++ (if x < 0 then "-" else "+") ++
      (if magnitude.length < 2 then "0" ++ magnitude else magnitude)

/-- The decimal that a number is shown as. -/
def shown : Binary64 → Decimal
  | .nan => .nan false false 0
  | .infinite s => .infinite s
  | .finite s m e =>
    if m = 0 then .finite s 0 0
    else
      let (c, k) := shortest m e
      .finite s c k

/-- The shortest text that reads back as the number. -/
def text (x : Binary64) : String :=
  match x.shown with
  | .nan .. => "nan"
  | .infinite s => if s then "-inf" else "inf"
  | .finite s c k =>
    Decimal.signText s ++
      if c = 0 then "0.0"
      else
        let (digits, zeros) := stripZeros (toString c).toList
        layout digits (k + zeros + digits.length)

end Qualify.Binary64
