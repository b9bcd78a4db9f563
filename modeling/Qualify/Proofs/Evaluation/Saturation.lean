import Qualify.Proofs.Evaluation

/-!
# Where totals of points saturate

A total is brought between the least and the greatest score after it has been turned into points,
and only integers of at most 28 digits are points.  Each adjustment keeps within these digits, their
sum need not.  So a total saturates exactly as long as it has few enough digits itself
(`Engine.evaluate_saturates_iff`); past that the evaluation degrades, and the lead that earns most
is left with a score of zero.
-/

namespace Qualify

/-- Why a total of so many digits is no score. -/
def overflowOf (n : Int) : Failure :=
  if n.natAbs < tenTo digitLimit then .arithmetic .invalidOperation else .longInteger

/-- A total is brought between zero and a hundred if it has at most 28 digits, and else is none. -/
theorem clampScore_eq (n : Int) :
    clampScore n =
      if n.natAbs < tenTo Decimal.precision then .ok (max 0 (min 100 n))
      else .error (overflowOf n) := by
  split
  · case isTrue h => exact clampScore_eq_ok_iff.mpr ⟨h, rfl⟩
  · case isFalse h =>
      have hpoints : (Value.int n).toPoints = .error (overflowOf n) := by
        rw [Value.toPoints, Value.asDecimal_int, overflowOf]
        split
        · rw [Except.ok_bind, Decimal.toInteger_ofInt, if_neg h]
          rfl
        · rfl
      rw [clampScore, Value.clamp, hpoints]
      rfl

namespace Engine

variable {e : Engine} {cells : Cells} {lead config rules : Value} {c : Scorecard} {b : BaseScore}
variable {a : Application}

/-- Where the rules have been applied, the evaluation goes on to the score of their total. -/
theorem assess_of_applied (hb : BaseScore.ofValue e.tables cells lead c = .ok b)
    (ha : applied cells lead rules b = .ok a) :
    e.assess cells lead c rules = conclude c b a := by
  rw [assess_eq, hb, Except.ok_bind, ha, Except.ok_bind]

/-- A total is a score, the nearest one from zero to a hundred, exactly when it has at most 28
digits.  So once there are a base score and the adjustments of all rules, the evaluation ends with
their total, brought between zero and a hundred, exactly when that has so few digits, and degrades
otherwise. -/
theorem evaluate_saturates_iff (hconfig : Scorecard.ofValue? config = some c)
    (hb : BaseScore.ofValue e.tables cells lead c = .ok b)
    (ha : applied cells lead rules b = .ok a) :
    (∀ n : Int, clampScore n = .ok (max 0 (min 100 n)) ↔ n.natAbs < tenTo Decimal.precision) ∧
    a.total = b.score + (a.adjustments.map Adjustment.delta).sum ∧
    ((∃ v, e.assess cells lead c rules = .ok v ∧ e.evaluate cells lead config rules = v ∧
        v.score = max 0 (min 100 a.total)) ↔ a.total.natAbs < tenTo Decimal.precision) ∧
    (tenTo Decimal.precision ≤ a.total.natAbs →
      e.evaluate cells lead config rules = .degraded (overflowOf a.total)) := by
  have hassess := assess_of_applied hb ha
  have hlarge : tenTo Decimal.precision ≤ a.total.natAbs →
      e.assess cells lead c rules = .error (overflowOf a.total) := by
    intro h
    rw [hassess, conclude_eq_error_iff, clampScore_eq, if_neg (Nat.not_lt.mpr h)]
  refine ⟨fun n => ?_, total_of_applied ha, ⟨?_, fun h => ?_⟩, fun h => ?_⟩
  · rw [clampScore_eq_ok_iff]
    exact and_iff_left rfl
  · rintro ⟨v, hv, -, -⟩
    refine Nat.lt_of_not_ge fun h => ?_
    exact nomatch hv.symm.trans (hlarge h)
  · obtain ⟨v, hv, hscore⟩ : ∃ v, e.assess cells lead c rules = .ok v ∧
        v.score = max 0 (min 100 a.total) := by
      rw [hassess, conclude, clampScore_eq, if_pos h]
      exact ⟨_, rfl, rfl⟩
    refine ⟨v, hv, ?_, hscore⟩
    rw [evaluate, hconfig]
    simp only [hv]
  · rw [evaluate, hconfig]
    simp only [hlarge h]

/-! ## Two rules that are acceptable alone -/

/-- A lead with an address, and a rule that gives it points in some place. -/
def addressed : Value := .map [(.text "email", .text "a@b.io")]

def generous (order points : Int) : Value :=
  Application.textRule "generous" order "email" "a@b.io" points

/-- The outcome of such a rule. -/
def given (points : Int) : Outcome := ⟨some "generous", .applied ⟨"a@b.io", points⟩⟩

/-- A rule of nine times `10 ^ 27` points leaves the total within 28 digits. -/
theorem evaluate_saturates_generous :
    (Engine.evaluate {} [] addressed (.scorecard {}) (.list [generous 1 (9 * 10 ^ 27)])).score =
      100 := by
  have hb : BaseScore.ofValue {} [] addressed {} = .ok ⟨0, {}, [], []⟩ := by decide +kernel
  have ha : applied [] addressed (.list [generous 1 (9 * 10 ^ 27)]) ⟨0, {}, [], []⟩ =
      .ok ⟨9 * 10 ^ 27, [given (9 * 10 ^ 27)]⟩ := by
    decide +kernel
  have hconfig : Scorecard.ofValue? (.scorecard {}) = some {} := rfl
  obtain ⟨-, -, hscore, -⟩ := evaluate_saturates_iff (e := {}) hconfig hb ha
  obtain ⟨v, -, hv, hsaturated⟩ := hscore.mpr (by decide +kernel)
  rw [hv, hsaturated]
  decide +kernel

/-- Two rules that come to the greatest score alone come to none together: the sum of their points
has a digit too many. -/
theorem evaluate_twoGenerous_degraded :
    clampScore (11 * 10 ^ 27) ≠ .ok (max 0 (min 100 (11 * 10 ^ 27))) ∧
      (Engine.evaluate {} [] addressed (.scorecard {})
        (.list [generous 1 (9 * 10 ^ 27)])).score = 100 ∧
      (Engine.evaluate {} [] addressed (.scorecard {})
        (.list [generous 2 (2 * 10 ^ 27)])).score = 100 ∧
      Engine.evaluate {} [] addressed (.scorecard {})
          (.list [generous 1 (9 * 10 ^ 27), generous 2 (2 * 10 ^ 27)]) =
        .degraded (.arithmetic .invalidOperation) := by
  refine ⟨by decide +kernel, by decide +kernel, by decide +kernel, ?_⟩
  have hb : BaseScore.ofValue {} [] addressed {} = .ok ⟨0, {}, [], []⟩ := by decide +kernel
  have harranged : Application.arranged [generous 1 (9 * 10 ^ 27), generous 2 (2 * 10 ^ 27)] =
      [generous 1 (9 * 10 ^ 27), generous 2 (2 * 10 ^ 27)] :=
    Application.arranged_of_pairwise (by decide +kernel) (by decide +kernel)
  have ha : applied [] addressed (.list [generous 1 (9 * 10 ^ 27), generous 2 (2 * 10 ^ 27)])
      ⟨0, {}, [], []⟩ = .ok ⟨11 * 10 ^ 27, [given (9 * 10 ^ 27), given (2 * 10 ^ 27)]⟩ := by
    rw [applied, if_neg (by decide), Application.ofRules_list_eq_ok_iff, harranged]
    exact ⟨.cons (by decide +kernel) (.cons (by decide +kernel) .nil), by decide +kernel⟩
  have hassess := assess_of_applied (e := {}) hb ha
  have hconclude : conclude {} ⟨0, {}, [], []⟩
      ⟨11 * 10 ^ 27, [given (9 * 10 ^ 27), given (2 * 10 ^ 27)]⟩ =
        .error (.arithmetic .invalidOperation) := by
    decide +kernel
  rw [hconclude] at hassess
  rw [evaluate]
  simp only [Scorecard.ofValue?, hassess]

end Engine

end Qualify
