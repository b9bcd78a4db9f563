import Qualify.Number.Shortest
import Qualify.Proofs.Number.Rounding

/-!
# How far the shown decimal may be off

A binary64 number is shown as the first decimal that reads back, found on grids that get finer and
finer.  Whatever the search stops at has at most eighteen digits, since a grid point next to the
number has no more digits than its grid has places, and it lies no further up than half a unit in
the last place.  So `Binary64.exists_shown_finite`: the decimal shown is short, and at most half as
large again as the number itself.
-/

namespace Qualify.Binary64

/-- The magnitude of a finite number. -/
def magnitude : Binary64 → ℚ
  | .finite _ m e => m * 2 ^ e
  | _ => 0

theorem scaledRatio_den_pos (m : ℕ) (e : ℤ) : 0 < (scaledRatio m e).2 := by
  cases e with
  | ofNat k => exact Nat.one_pos
  | negSucc k => exact Nat.pow_pos (by decide)

theorem scaledRatio_den (m n : ℕ) (e : ℤ) : (scaledRatio m e).2 = (scaledRatio n e).2 := by
  cases e with
  | ofNat k => rfl
  | negSucc k => rfl

theorem scaledRatio_eq (m : ℕ) (e : ℤ) :
    ((scaledRatio m e).1 : ℚ) / (scaledRatio m e).2 = m * 2 ^ e := by
  cases e with
  | ofNat k =>
      simp only [scaledRatio, Nat.cast_mul, cast_twoTo, Nat.cast_one, div_one, Int.ofNat_eq_natCast,
        zpow_natCast]
  | negSucc k => rw [zpow_negSucc, ← cast_twoTo, ← div_eq_mul_inv, scaledRatio]

/-! ## Grids -/

section Grid

variable {num den : ℕ}

/-- A grid point is found by rounding down. -/
theorem gridFloor_eq (num den : ℕ) (k : ℤ) : gridFloor num den k = ⌊(num / den : ℚ) / 10 ^ k⌋₊ := by
  cases k with
  | ofNat k =>
      rw [gridFloor, Int.ofNat_eq_natCast, zpow_natCast, ← cast_tenTo, div_div, ← Nat.cast_mul,
        Nat.floor_div_eq_div]
  | negSucc k =>
      rw [gridFloor, zpow_negSucc, div_inv_eq_mul, ← cast_tenTo, div_mul_eq_mul_div, ← Nat.cast_mul,
        Nat.floor_div_eq_div]

theorem gridFloor_mul_le (num den : ℕ) (k : ℤ) :
    (gridFloor num den k : ℚ) * 10 ^ k ≤ num / den := by
  have hpow : (0 : ℚ) < 10 ^ k := by positivity
  rw [gridFloor_eq, ← le_div_iff₀ hpow]
  exact Nat.floor_le (by positivity)

/-- The place of the leading digit bounds the number. -/
theorem lt_leadingPlace (hden : 0 < den) : (num / den : ℚ) < 10 ^ leadingPlace num den := by
  have hden' : (0 : ℚ) < den := Nat.cast_pos.mpr hden
  have hdigits : num * tenTo 340 / den < 10 ^ digitCount (num * tenTo 340 / den) :=
    (Nat.length_toDigits_le_iff (by decide) Nat.length_toDigits_pos).mp le_rfl
  have hcast : (num : ℚ) * 10 ^ 340 < 10 ^ digitCount (num * tenTo 340 / den) * den := by
    have h := (Nat.div_lt_iff_lt_mul hden).mp hdigits
    rw [← cast_tenTo 340]
    exact_mod_cast h
  rw [leadingPlace, zpow_sub₀ (by decide), zpow_natCast, div_lt_div_iff₀ hden' (by positivity)]
  exact_mod_cast hcast

/-- On a grid of some places behind the leading one, a number has no more digits than places. -/
theorem gridFloor_lt (hden : 0 < den) (digits : ℕ) :
    gridFloor num den (leadingPlace num den - digits) < 10 ^ digits := by
  have hpow : (0 : ℚ) < 10 ^ (leadingPlace num den - digits) := by positivity
  rw [gridFloor_eq, Nat.floor_lt (by positivity), div_lt_iff₀ hpow, Nat.cast_pow, Nat.cast_ofNat,
    ← zpow_natCast, ← zpow_add₀ (by decide)]
  have hplace : (num / den : ℚ) < 10 ^ leadingPlace num den := lt_leadingPlace hden
  rwa [add_sub_cancel]

/-- What lies between two ratios is not above the upper one. -/
theorem le_of_within {inclusive : Bool} {low high c : ℕ} {k : ℤ} (hden : 0 < den)
    (h : within inclusive low high den c k) : (c : ℚ) * 10 ^ k ≤ high / den := by
  have hden' : (0 : ℚ) < den := Nat.cast_pos.mpr hden
  rw [le_div_iff₀ hden']
  cases k with
  | ofNat k =>
      have hle : c * 10 ^ k * den ≤ high := by
        cases inclusive <;> simp [within] at h <;> omega
      rw [Int.ofNat_eq_natCast, zpow_natCast, ← cast_tenTo]
      exact_mod_cast hle
  | negSucc k =>
      have hle : c * den ≤ high * 10 ^ (k + 1) := by
        cases inclusive <;> simp [within] at h <;> omega
      have hpow : (0 : ℚ) < tenTo (k + 1) := Nat.cast_pos.mpr (tenTo_pos _)
      rw [zpow_negSucc, ← cast_tenTo, ← div_eq_mul_inv, div_mul_eq_mul_div, div_le_iff₀ hpow]
      exact_mod_cast hle

theorem nearer_eq (num den c : ℕ) (k : ℤ) : nearer num den c k = c ∨ nearer num den c k = c + 1 := by
  unfold nearer
  cases k with
  | ofNat k | negSucc k =>
      dsimp only
      split
      · exact .inl rfl
      · exact .inr rfl
      · split
        · exact .inl rfl
        · exact .inr rfl

/-- On one grid the search stops at a neighbour of the number that reads back, or goes on. -/
theorem searchGrid_succ (inclusive : Bool) (num low high den : ℕ) (place : ℤ) (digits fuel : ℕ) :
    (∃ c, c ≤ gridFloor num den (place - digits) + 1 ∧
      within inclusive low high den c (place - digits) ∧
      searchGrid inclusive num low high den place digits (fuel + 1) = (c, place - digits)) ∨
    searchGrid inclusive num low high den place digits (fuel + 1) =
      searchGrid inclusive num low high den place (digits + 1) fuel := by
  have hnear := nearer_eq num den (gridFloor num den (place - digits)) (place - digits)
  rw [searchGrid]
  generalize nearer num den (gridFloor num den (place - digits)) (place - digits) = near at hnear
  generalize hother : (if near = gridFloor num den (place - digits) then
    gridFloor num den (place - digits) + 1 else gridFloor num den (place - digits)) = other
  split
  · case isTrue hwithin => exact .inl ⟨near, by omega, hwithin, rfl⟩
  · split
    · case isTrue hwithin =>
        refine .inl ⟨other, ?_, hwithin, rfl⟩
        rw [← hother]
        split <;> omega
    · exact .inr rfl

/-- The search stops at a short decimal that is not above the upper end. -/
theorem searchGrid_le {inclusive : Bool} {low high : ℕ} (hden : 0 < den) (hhigh : num ≤ high)
    (digits fuel : ℕ) {c : ℕ} {k : ℤ}
    (h : searchGrid inclusive num low high den (leadingPlace num den) digits fuel = (c, k)) :
    c ≤ 10 ^ (digits + fuel) ∧ (c : ℚ) * 10 ^ k ≤ high / den := by
  induction fuel generalizing digits with
  | zero =>
      cases h
      refine ⟨(gridFloor_lt hden digits).le, (gridFloor_mul_le num den _).trans ?_⟩
      gcongr
  | succ fuel ih =>
      have hfloor : gridFloor num den (leadingPlace num den - digits) < 10 ^ digits :=
        gridFloor_lt hden digits
      have hpow : 10 ^ digits ≤ 10 ^ (digits + (fuel + 1)) :=
        Nat.pow_le_pow_right (by decide) (by omega)
      rcases searchGrid_succ inclusive num low high den (leadingPlace num den) digits fuel with
        ⟨c', hc', hwithin, hstop⟩ | hnext
      · cases hstop.symm.trans h
        exact ⟨by omega, le_of_within hden hwithin⟩
      · have hrest := ih (digits + 1) (hnext.symm.trans h)
        rwa [add_right_comm, add_assoc] at hrest

end Grid

/-! ## The decimal shown -/

/-- The decimal that a number other than zero is shown as is short, and lies no further up than half
a unit in the last place. -/
theorem shortest_le {m : ℕ} {e : ℤ} {c : ℕ} {k : ℤ} (h : shortest m e = (c, k)) :
    c ≤ 10 ^ 18 ∧ (c : ℚ) * 10 ^ k ≤ (m + 1 / 2) * 2 ^ e := by
  have hden := scaledRatio_den_pos (4 * m) (e - 2)
  have hhigh : (((scaledRatio (4 * m) (e - 2)).1 + 2 * (scaledRatio 1 (e - 2)).1 : ℕ) : ℚ) /
      (scaledRatio (4 * m) (e - 2)).2 = (m + 1 / 2) * 2 ^ e := by
    have hnum := scaledRatio_eq (4 * m) (e - 2)
    have hunit := scaledRatio_eq 1 (e - 2)
    rw [scaledRatio_den 1 (4 * m)] at hunit
    rw [Nat.cast_add, Nat.cast_mul, add_div, mul_div_assoc, hnum, hunit, zpow_sub₀ (by decide)]
    push_cast
    ring
  rw [← hhigh]
  exact searchGrid_le hden (Nat.le_add_right _ _) 1 17 h

/-- A finite number is shown as a short decimal, and at most half as large again. -/
theorem exists_shown_finite (s : Bool) (m : ℕ) (e : ℤ) :
    ∃ c k, (Binary64.finite s m e).shown = .finite s c k ∧ c ≤ 10 ^ 18 ∧
      (m = 0 → c = 0) ∧ (c : ℚ) * 10 ^ k ≤ 3 / 2 * (Binary64.finite s m e).magnitude := by
  by_cases hm : m = 0
  · subst hm
    exact ⟨0, 0, rfl, Nat.zero_le _, fun _ => rfl, by simp [magnitude]⟩
  · rcases hshortest : shortest m e with ⟨c, k⟩
    obtain ⟨hc, hle⟩ := shortest_le hshortest
    refine ⟨c, k, ?_, hc, fun h => absurd h hm, hle.trans ?_⟩
    · rw [shown, if_neg hm, hshortest]
    · have hone : (1 : ℚ) ≤ m := Nat.one_le_cast.mpr (Nat.pos_of_ne_zero hm)
      have hpow : (0 : ℚ) < 2 ^ e := by positivity
      rw [magnitude, ← mul_assoc]
      gcongr
      linarith

end Qualify.Binary64
