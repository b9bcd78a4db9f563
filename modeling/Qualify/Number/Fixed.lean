import Qualify.Number.Binary64

/-!
# Fixed places

A number with a fixed count of digits behind the point. A half goes to the even neighbour.
-/

namespace Qualify.Fixed

/-- Digits with a point before the last `places` of them, at least one before the point. -/
def withPoint (places : Nat) (ds : List Char) : List Char :=
  let ds := List.replicate (places + 1 - ds.length) '0' ++ ds
  if places = 0 then ds
  else ds.take (ds.length - places) ++ '.' :: ds.drop (ds.length - places)

/-- The digits of `m * 2 ^ e` with this many places. -/
def digits (m : Nat) (e : Int) (places : Nat) : List Char :=
  let (num, den) := Binary64.scaledRatio m e
  withPoint places (Nat.toDigits 10 (Binary64.evenDiv (num * tenTo places) den))

end Qualify.Fixed
