import Qualify.Proofs.Number.Order
import Qualify.Proofs.Points.Range

/-!
# Points in order

Points follow the decimals that numbers are shown as: what is shown as no more is worth no more
points, as a whole (`Binary64.toPoints_mono`) and by every share of it
(`Binary64.scaledPoints_mono`).
-/

namespace Qualify

namespace Binary64

variable {x y : Binary64} {p q : ℤ}

/-- Two finite numbers, the second shown as a decimal that is no less than that of the first. -/
structure ShowsAtMost (x y : Binary64) : Prop where
  left : x.isFinite
  right : y.isFinite
  le : x.shown.value ≤ y.shown.value

instance : Decidable (x.ShowsAtMost y) :=
  decidable_of_iff (x.isFinite ∧ y.isFinite ∧ x.shown.value ≤ y.shown.value)
    ⟨fun h => ⟨h.1, h.2.1, h.2.2⟩, fun h => ⟨h.left, h.right, h.le⟩⟩

theorem value_shown_abs_nonneg (x : Binary64) : 0 ≤ x.abs.shown.value := by
  cases x with
  | infinite s => exact le_rfl
  | nan => exact le_rfl
  | finite s m e =>
      obtain ⟨c, k, hshown, -⟩ := exists_shown_finite s m e
      rw [shown_abs s m e hshown, Decimal.value_positive]
      positivity

theorem toPoints_mono (h : x.shown.value ≤ y.shown.value) (hp : x.toPoints = .ok p)
    (hq : y.toPoints = .ok q) : p ≤ q :=
  Decimal.toInteger_mono h (toPoints_eq_ok_iff.mp hp) (toPoints_eq_ok_iff.mp hq)

theorem toPoints_nonneg (h : 0 ≤ x.shown.value) (hp : x.toPoints = .ok p) : 0 ≤ p := by
  rw [Decimal.eq_nearestInt (toPoints_eq_ok_iff.mp hp)]
  exact Decimal.nearestInt_nonneg h

/-- A share of a number is rounded as the decimal that it is. -/
theorem exists_share (hx : x.isFinite) {n : ℕ} (hn : n ≤ 100) :
    ∃ d : Decimal, d.value = x.shown.value * (n / 100) ∧
      ∀ p, scaledPoints x.shown (hundredths n) = .ok p ↔ d.toInteger = .ok p := by
  cases x with
  | infinite s => cases hx
  | nan => cases hx
  | finite s m e =>
      obtain ⟨c, k, hshown, hc, -⟩ := exists_shown_finite s m e
      refine ⟨.finite s (c * n) (k - 2), ?_, ?_⟩
      · rw [hshown]
        cases s with
        | false => rw [Decimal.value_positive, Decimal.value_positive, share_value]
        | true => rw [Decimal.value_negative, Decimal.value_negative, share_value, neg_mul]
      · intro p
        rw [hshown, scaledPoints_share_eq_ok_iff hc hn]

theorem scaledPoints_mono (h : x.ShowsAtMost y) {n : ℕ} (hn : n ≤ 100)
    (hp : scaledPoints x.shown (hundredths n) = .ok p)
    (hq : scaledPoints y.shown (hundredths n) = .ok q) : p ≤ q := by
  obtain ⟨d, hd, hdp⟩ := exists_share h.left hn
  obtain ⟨d', hd', hdq⟩ := exists_share h.right hn
  refine Decimal.toInteger_mono ?_ ((hdp p).mp hp) ((hdq q).mp hq)
  rw [hd, hd']
  exact mul_le_mul_of_nonneg_right h.le (by positivity)

end Binary64

theorem clampScore_mono {m n p q : ℤ} (h : m ≤ n) (hp : clampScore m = .ok p)
    (hq : clampScore n = .ok q) : p ≤ q := by
  obtain ⟨-, rfl⟩ := clampScore_eq_ok_iff.mp hp
  obtain ⟨-, rfl⟩ := clampScore_eq_ok_iff.mp hq
  exact max_le_max_left 0 (min_le_min_left 100 h)

end Qualify
