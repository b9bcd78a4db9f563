import Qualify.Proofs.Points.Order

/-!
# Shares of a weight

A share that can be turned into points lies between zero and what its weight is worth
(`Binary64.isShareOf_of_scaledPoints`), and it does so in two ways.  A weight that has points bounds
the share by them.  A weight of more digits than points may have can still have a share; that is
bounded by the integer nearest to the weight, which is what the points of a weight are where it has
any.
-/

namespace Qualify

namespace Binary64

variable {x : Binary64} {p : ℤ} {n : ℕ}

/-- What is shown of a number that is not negative is not negative. -/
theorem value_shown_nonneg (hx : Binary64.zero.le x) : 0 ≤ x.shown.value := by
  cases x with
  | infinite s => exact le_rfl
  | nan => exact le_rfl
  | finite s m e =>
      obtain ⟨c, k, hshown, -, hzero, -⟩ := exists_shown_finite s m e
      rw [hshown]
      cases s with
      | false =>
          rw [Decimal.value_positive]
          positivity
      | true =>
          rw [Decimal.value_negative, hzero (significand_eq_zero_of_nonnegative hx)]
          simp

theorem toPoints_eq_nearestInt (h : x.toPoints = .ok p) :
    p = Decimal.nearestInt x.shown.value :=
  Decimal.eq_nearestInt (toPoints_eq_ok_iff.mp h)

/-- Nothing but finite numbers has shares. -/
theorem isFinite_of_scaledPoints (h : scaledPoints x.shown (hundredths n) = .ok p) :
    x.isFinite := by
  cases x with
  | finite s m e => rfl
  | infinite s =>
      obtain ⟨d, hmul, hd⟩ := scaledPoints_eq_ok_iff.mp h
      rw [shown, hundredths, Decimal.mul] at hmul
      split at hmul
      · cases hmul
      · cases hmul
        cases hd
  | nan =>
      obtain ⟨d, hmul, hd⟩ := scaledPoints_eq_ok_iff.mp h
      cases hmul
      cases hd

/-- Points lie between zero and the points of a weight, or, if it has none because they would have
too many digits, between zero and the integer nearest to it. -/
structure IsShareOf (x : Binary64) (p : ℤ) : Prop where
  nonneg : 0 ≤ p
  le_points : ∀ q, x.toPoints = .ok q → p ≤ q
  le_nearest : p ≤ Decimal.nearestInt x.shown.value

theorem isShareOf_of_le (hp : 0 ≤ p) (h : p ≤ Decimal.nearestInt x.shown.value) :
    x.IsShareOf p where
  nonneg := hp
  le_points := fun _ hq => toPoints_eq_nearestInt hq ▸ h
  le_nearest := h

theorem isShareOf_zero (hx : Binary64.zero.le x) : x.IsShareOf 0 :=
  isShareOf_of_le le_rfl (Decimal.nearestInt_nonneg (value_shown_nonneg hx))

theorem isShareOf_of_scaledPoints (hx : Binary64.zero.le x) (hn : n ≤ 100)
    (h : scaledPoints x.shown (hundredths n) = .ok p) : x.IsShareOf p := by
  have hvalue : 0 ≤ x.shown.value := value_shown_nonneg hx
  obtain ⟨d, hd, hscaled⟩ := exists_share (isFinite_of_scaledPoints h) hn
  have hshare : (n : ℚ) / 100 ≤ 1 := by
    rw [div_le_one (by norm_num)]
    exact_mod_cast hn
  rw [Decimal.eq_nearestInt ((hscaled p).mp h), hd]
  refine isShareOf_of_le (Decimal.nearestInt_nonneg (by positivity)) (Decimal.nearestInt_mono ?_)
  exact mul_le_of_le_one_right hvalue hshare

end Binary64

end Qualify
