import Mathlib.Algebra.Order.Group.Int
import Qualify.Points
import Qualify.Proofs.Except

/-!
# Points and scores

An integer is its own number of points as long as it has at most 28 digits, and is none otherwise.
So bringing a total between the least and the greatest score fails on totals of more digits only
(`clampScore_eq_ok_iff`), however far outside the scores the others lie.
-/

namespace Qualify

/-- A decimal without places after the point is an integer if it has at most 28 digits. -/
theorem Decimal.toInteger_finite_ofNat_zero (s : Bool) (c : Nat) :
    (Decimal.finite s c (.ofNat 0)).toInteger =
      if c < tenTo Decimal.precision then .ok (if s then -(c : Int) else c)
      else .error .invalidOperation := by
  have hunit : c * tenTo 0 = c := Nat.mul_one c
  unfold toInteger
  dsimp only
  by_cases hc : c = 0
  · rw [if_pos hc, hc]
  · rw [if_neg hc, if_pos (by decide), hunit]

/-- An integer becomes points exactly when it has at most 28 digits, and then unchanged. -/
theorem Decimal.toInteger_ofInt (n : Int) :
    (Decimal.ofInt n).toInteger =
      if n.natAbs < tenTo Decimal.precision then .ok n else .error .invalidOperation := by
  have hsign : (if n < 0 then -(n.natAbs : Int) else n.natAbs) = n := by split <;> omega
  refine (toInteger_finite_ofNat_zero (n < 0) n.natAbs).trans ?_
  simp only [decide_eq_true_eq, hsign]

theorem tenTo_le_tenTo {m n : Nat} (h : m ≤ n) : tenTo m ≤ tenTo n :=
  Nat.pow_le_pow_right (Nat.succ_pos 9) h

/-- An integer of at most 28 digits is within the limit of what can be written. -/
theorem lt_digitLimit_of_lt_precision {n : Nat} (h : n < tenTo Decimal.precision) :
    n < tenTo digitLimit :=
  lt_of_lt_of_le h (tenTo_le_tenTo (by decide))

theorem ArithmeticFault.lift_eq_ok_iff {α : Type} {x : Except ArithmeticFault α} {a : α} :
    ArithmeticFault.lift x = .ok a ↔ x = .ok a := by
  cases x with
  | error f => simp [ArithmeticFault.lift]
  | ok b => simp [ArithmeticFault.lift]

namespace Value

theorem asDecimal_int (n : Int) :
    (Value.int n).asDecimal =
      if n.natAbs < tenTo digitLimit then .ok (.ofInt n) else .error .longInteger := rfl

/-- An integer is its own number of points if it has at most 28 digits, and else is none. -/
theorem toPoints_int_eq_ok_iff {n p : Int} :
    (Value.int n).toPoints = .ok p ↔ n.natAbs < tenTo Decimal.precision ∧ p = n := by
  rw [toPoints, asDecimal_int, Except.bind_eq_ok_iff]
  constructor
  · rintro ⟨d, hd, h⟩
    rw [ArithmeticFault.lift_eq_ok_iff] at h
    split at hd
    · cases hd
      rw [Decimal.toInteger_ofInt] at h
      split at h
      · case isTrue hn => exact ⟨hn, (Except.ok.inj h).symm⟩
      · cases h
    · cases hd
  · rintro ⟨hn, rfl⟩
    refine ⟨.ofInt p, if_pos (lt_digitLimit_of_lt_precision hn), ?_⟩
    rw [Decimal.toInteger_ofInt, if_pos hn]
    rfl

/-- Bringing an integer between two bounds fails exactly when it has more than 28 digits. -/
theorem clamp_int_eq_ok_iff {n low high s : Int} :
    (Value.int n).clamp low high = .ok s ↔
      n.natAbs < tenTo Decimal.precision ∧ s = between low high n := by
  rw [clamp, Except.bind_eq_ok_iff]
  constructor
  · rintro ⟨p, hp, h⟩
    obtain ⟨hn, rfl⟩ := toPoints_int_eq_ok_iff.mp hp
    exact ⟨hn, (Except.pure_eq_ok_iff.mp h).symm⟩
  · rintro ⟨hn, rfl⟩
    exact ⟨n, toPoints_int_eq_ok_iff.mpr ⟨hn, rfl⟩, rfl⟩

end Value

/-- A total is a score exactly when it has at most 28 digits: the nearest integer from 0 to 100. -/
theorem clampScore_eq_ok_iff {n s : Int} :
    clampScore n = .ok s ↔ n.natAbs < tenTo Decimal.precision ∧ s = max 0 (min 100 n) :=
  Value.clamp_int_eq_ok_iff

end Qualify
