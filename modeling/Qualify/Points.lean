import Qualify.Value.Text

/-!
# Points

Points are integers. A value becomes points through the decimal that it is shown as, rounded to the
nearest integer with a half going away from zero, so that the binary error of a number never shows.
-/

namespace Qualify

/-- The decimal that a value is shown as. -/
def Value.asDecimal : Value → Except Failure Decimal
  | .int n => if n.natAbs < tenTo digitLimit then .ok (.ofInt n) else .error .longInteger
  | .float x => .ok x.shown
  | .decimal d => .ok d
  | v => do ArithmeticFault.lift (Decimal.ofText (← v.toText))

/-- The points nearest to a value. -/
def Value.toPoints (v : Value) : Except Failure Int := do
  ArithmeticFault.lift (← v.asDecimal).toInteger

/-- The points nearest to a number. -/
def Binary64.toPoints (x : Binary64) : Except Failure Int := ArithmeticFault.lift x.shown.toInteger

/-- The points for a share of a weight. -/
def scaledPoints (weight share : Decimal) : Except Failure Int := do
  ArithmeticFault.lift (← ArithmeticFault.lift (weight.mul share)).toInteger

/-- A share is written in hundredths. -/
def hundredths (n : Nat) : Decimal := .finite false n (-2)

/-- An integer brought between two bounds; the lower one wins if they cross. -/
def between (low high n : Int) : Int := max low (min high n)

/-- The least and the greatest score. -/
def minScore : Int := 0

def maxScore : Int := 100

/-- The points nearest to a value, brought between two bounds. -/
def Value.clamp (v : Value) (low high : Int) : Except Failure Int := do
  return between low high (← v.toPoints)

/-- A total of points as a score. -/
def clampScore (n : Int) : Except Failure Int := (Value.int n).clamp minScore maxScore

end Qualify
