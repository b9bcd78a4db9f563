import Qualify.Scorecard.Reader
import Qualify.Value.Text

/-!
# Bands

A score falls into one of three bands. A score that reaches the upper threshold is high, one that
reaches the middle threshold is medium, and every other score is low, whether it lies between the
least and the greatest score or not.
-/

namespace Qualify

inductive Band where
  | low
  | medium
  | high
deriving Repr, DecidableEq, Inhabited

namespace Thresholds

/-- The thresholds of a team that has none. -/
def default : Thresholds where
  high := .ofRatio false 75 1
  medium := .ofRatio false 50 1
  low := .zero
  ascending := by decide +kernel

/-- The thresholds that a value is or describes, if it does. -/
def ofValue? : Value → Option Thresholds
  | .bands t => some t
  | .map es => (Check.thresholds (.map es)).result?
  | _ => none

/-- The thresholds that a value is or describes, else the default ones. -/
def ofValue (v : Value) : Thresholds := (ofValue? v).getD default

end Thresholds

namespace Decimal

/-- Does the first value reach the second? Nothing holds of what is no number. -/
def reaches (a b : Decimal) : Bool :=
  match a.cmp? b with
  | some .gt | some .eq => true
  | _ => false

end Decimal

namespace Band

/-- The band of a score. -/
def classify (score : Decimal) (t : Thresholds) : Band :=
  if score.reaches t.high.toDecimal then high
  else if score.reaches t.medium.toDecimal then medium
  else low

/-- Bands in ascending order. -/
def rank : Band → Nat
  | low => 0
  | medium => 1
  | high => 2

def name : Band → String
  | low => "LOW"
  | medium => "MEDIUM"
  | high => "HIGH"

def description : Band → String
  | high => "Sales-ready lead, route for immediate follow-up"
  | medium => "Qualified lead, route to standard follow-up"
  | low => "Unqualified or incomplete lead, nurture only"

/-- The band that a value names. -/
def ofValue (v : Value) : Except Failure Band :=
  match v.text?.bind fun s => [high, medium, low].find? fun b => b.name == s with
  | some b => .ok b
  | none => do .error (.noBand (← v.quoted))

end Band

end Qualify
