import Qualify.Proofs.Number.Layout
import Qualify.Proofs.Points.Exact

/-!
# Integers among the binary64 numbers

An integer of at most 53 binary digits is a number of the format, so it is the number nearest to
itself (`Binary64.IsNearest.value_eq_intCast`).  The search for its shortest decimal stops at the
grid of the integers or before, and the only integer between the ends within which it reads back is
the number itself.  So it is shown as itself and is worth as many points
(`Binary64.IsInteger.toPoints_eq`).
-/

namespace Qualify

theorem IsNearestEven.eq_of_intCast {m n : ℤ} (h : IsNearestEven m (n : ℚ)) : m = n :=
  le_antisymm (h.mono (.intCast n) le_rfl) ((IsNearestEven.intCast n).mono h le_rfl)

namespace Binary64

variable {x : Binary64} {n e : ℤ}

/-! ## The nearest number -/

/-- An integer of at most 53 digits lies on the grid on which it is rounded. -/
theorem HasExponent.exists_div_eq_intCast (h : HasExponent (n : ℚ) e) (hn : |n| ≤ 2 ^ 53) :
    ∃ j : ℤ, (n : ℚ) / 2 ^ e = j := by
  rcases le_or_gt e 0 with he | he
  · obtain ⟨k, hk⟩ := Int.eq_ofNat_of_zero_le (neg_nonneg.mpr he)
    refine ⟨n * 2 ^ k, ?_⟩
    rw [div_eq_mul_inv, ← zpow_neg, hk, zpow_natCast]
    push_cast
    rfl
  · -- one digit more is needed by `2 ^ 53` only, and that is even
    have hleast : leastExponent < e := (show leastExponent < 0 by decide).trans he
    have hlow : (2 : ℚ) ^ (e + 52) ≤ 2 ^ (53 : ℤ) := (h.le hleast).trans (by exact_mod_cast hn)
    have hexponent : e + 52 ≤ 53 := (zpow_le_zpow_iff_right₀ (by norm_num)).mp hlow
    obtain rfl : e = 1 := by omega
    have hhigh : (2 : ℤ) ^ 53 ≤ |n| := by exact_mod_cast h.le hleast
    rcases abs_eq (by norm_num) |>.mp (le_antisymm hn hhigh) with rfl | rfl
    · exact ⟨2 ^ 52, by norm_num⟩
    · exact ⟨-2 ^ 52, by norm_num⟩

/-- The number nearest to an integer of at most 53 digits is that integer. -/
theorem IsNearest.value_eq_intCast (h : x.IsNearest n) (hn : |n| ≤ 2 ^ 53) : x.value = n := by
  obtain ⟨e, m, hexponent, hnearest, hvalue⟩ := h.rounded
  obtain ⟨j, hj⟩ := hexponent.exists_div_eq_intCast hn
  rw [hj] at hnearest
  rw [hvalue, hnearest.eq_of_intCast, ← hj, div_mul_cancel₀ _ (by positivity)]

/-! ## The decimal shown -/

section Grid

variable (inclusive : Bool) {N num low high den : ℕ} {place : ℤ}

/-- On the grid of the integers the search stops at an integer itself. -/
theorem searchGrid_zero (hden : 0 < den) (hnum : num = N * den) (hlow : low < num)
    (hhigh : num < high) (digits fuel : ℕ) :
    searchGrid inclusive num low high den digits digits (fuel + 1) = (N, 0) := by
  have hone : tenTo 0 = 1 := rfl
  have hfloor : gridFloor num den 0 = N := by
    show num / (den * tenTo 0) = N
    rw [hone, Nat.mul_one, hnum, Nat.mul_div_cancel _ hden]
  have hnear : nearer num den N 0 = N := by
    have hless : compare (2 * num) ((2 * N + 1) * (den * tenTo 0)) = .lt := by
      rw [Nat.compare_eq_lt, hone, Nat.mul_one, hnum, Nat.add_mul, Nat.mul_assoc]
      omega
    rw [show (0 : ℤ) = Int.ofNat 0 from rfl]
    unfold nearer
    dsimp only
    rw [hless]
  have hpoint : N * tenTo 0 * den = num := by rw [hone, Nat.mul_one, hnum]
  have hstop : within inclusive low high den N 0 = true := by
    show (if inclusive then decide (low * 1 ≤ N * tenTo 0 * den) &&
      decide (N * tenTo 0 * den ≤ high * 1) else decide (low * 1 < N * tenTo 0 * den) &&
      decide (N * tenTo 0 * den < high * 1)) = true
    rw [hpoint, Nat.mul_one, Nat.mul_one]
    cases inclusive with
    | false => simpa using And.intro hlow hhigh
    | true => simpa using And.intro hlow.le hhigh.le
  rw [searchGrid, sub_self, hfloor, hnear, if_pos hstop]

/-- The search for an integer does not go on to fractions. -/
theorem searchGrid_exponent_nonneg (hden : 0 < den) (hnum : num = N * den) (hlow : low < num)
    (hhigh : num < high) (digits fuel : ℕ) (hstart : (digits : ℤ) ≤ place)
    (hfuel : place < digits + fuel) :
    0 ≤ (searchGrid inclusive num low high den place digits fuel).2 := by
  induction fuel generalizing digits with
  | zero => omega
  | succ fuel ih =>
      rcases hstart.eq_or_lt with rfl | hlt
      · rw [searchGrid_zero inclusive hden hnum hlow hhigh]
      · rcases searchGrid_succ inclusive num low high den place digits fuel with
          ⟨c, -, -, hstop⟩ | hnext
        · rw [hstop]
          show 0 ≤ place - digits
          omega
        · rw [hnext]
          exact ih (digits + 1) (by omega) (by omega)

/-- The leading digit of an integer of at most 53 binary digits stands at one of 16 places. -/
theorem leadingPlace_of_natCast (hden : 0 < den) (hnum : num = N * den) (hpos : 0 < N)
    (hN : N ≤ 2 ^ 53) : 1 ≤ leadingPlace num den ∧ leadingPlace num den ≤ 16 := by
  have hvalue : (num : ℚ) / den = N := by
    have hden' : (den : ℚ) ≠ 0 := Nat.cast_ne_zero.mpr hden.ne'
    rw [hnum, Nat.cast_mul, mul_div_cancel_right₀ _ hden']
  have hfits : den ≤ num * tenTo 340 := by
    rw [hnum, mul_right_comm]
    exact Nat.le_mul_of_pos_left _ (Nat.mul_pos hpos (tenTo_pos _))
  have hhigh : (10 : ℚ) ^ (0 : ℤ) < 10 ^ leadingPlace num den := by
    refine lt_of_le_of_lt ?_ (lt_leadingPlace hden)
    rw [hvalue, zpow_zero]
    exact_mod_cast hpos
  have hlow : (10 : ℚ) ^ (leadingPlace num den - 1) < 10 ^ (16 : ℤ) := by
    refine (leadingPlace_le hden hfits).trans_lt ?_
    rw [hvalue]
    exact_mod_cast hN.trans_lt (by norm_num)
  have hplace := (zpow_lt_zpow_iff_right₀ (by norm_num)).mp hhigh
  have hplace' := (zpow_lt_zpow_iff_right₀ (by norm_num)).mp hlow
  omega

end Grid

variable {s : Bool} {m c N : ℕ} {k : ℤ}

/-- An integer of at most 53 digits is shown on a grid of integers. -/
theorem shortest_exponent_nonneg (hvalue : (m : ℚ) * 2 ^ e = N) (hpos : 0 < N) (hN : N ≤ 2 ^ 53)
    (h : shortest m e = (c, k)) : 0 ≤ k := by
  have hden := scaledRatio_den_pos (4 * m) (e - 2)
  have hscaled : ((scaledRatio (4 * m) (e - 2)).1 : ℚ) / (scaledRatio (4 * m) (e - 2)).2 = N := by
    rw [scaledRatio_eq, ← hvalue, zpow_sub₀ (by norm_num)]
    push_cast
    ring
  have hnum : (scaledRatio (4 * m) (e - 2)).1 = N * (scaledRatio (4 * m) (e - 2)).2 := by
    exact_mod_cast (div_eq_iff (Nat.cast_ne_zero.mpr hden.ne')).mp hscaled
  have hunit : 0 < (scaledRatio 1 (e - 2)).1 := by
    have hratio := scaledRatio_eq 1 (e - 2)
    refine Nat.pos_of_ne_zero fun hzero => ?_
    rw [hzero, Nat.cast_zero, zero_div, Nat.cast_one, one_mul] at hratio
    exact absurd hratio.symm (by positivity)
  obtain ⟨hfirst, hlast⟩ := leadingPlace_of_natCast hden hnum hpos hN
  have hpositive : 0 < (scaledRatio (4 * m) (e - 2)).1 := hnum ▸ Nat.mul_pos hpos hden
  have hlow : lowNumerator m e < (scaledRatio (4 * m) (e - 2)).1 := by
    unfold lowNumerator
    split <;> omega
  have hnonneg := searchGrid_exponent_nonneg (m % 2 = 0) hden hnum hlow
    (Nat.lt_add_of_pos_right (Nat.mul_pos two_pos hunit)) 1 17 hfirst (by omega)
  have hsearch : (c, k) = searchGrid (m % 2 = 0) (scaledRatio (4 * m) (e - 2)).1
    (lowNumerator m e) ((scaledRatio (4 * m) (e - 2)).1 + 2 * (scaledRatio 1 (e - 2)).1)
    (scaledRatio (4 * m) (e - 2)).2 (leadingPlace (scaledRatio (4 * m) (e - 2)).1
      (scaledRatio (4 * m) (e - 2)).2) 1 17 := h.symm
  rwa [← hsearch] at hnonneg

/-- Past `2 ^ 53` itself an integer of at most 53 digits has no exponent. -/
theorem IsCanonical.exponent_nonpos_or (hform : (finite s m e).IsCanonical)
    (hvalue : (m : ℚ) * 2 ^ e = N) (hN : N ≤ 2 ^ 53) : e ≤ 0 ∨ m = 2 ^ 52 ∧ e = 1 := by
  rcases le_or_gt e 0 with he | he
  · exact .inl he
  · right
    have hfull : (2 : ℚ) ^ 52 ≤ m := by
      exact_mod_cast hform.2.2.2 ((show leastExponent < 0 by decide).trans he)
    have hhigh : (m : ℚ) * 2 ^ e ≤ 2 ^ 53 := by
      rw [hvalue]
      exact_mod_cast hN
    have hexponent : (2 : ℚ) ^ e ≤ 2 ^ (1 : ℤ) := by
      rw [zpow_one]
      nlinarith [show (0 : ℚ) < 2 ^ e by positivity]
    have he' := (zpow_le_zpow_iff_right₀ (by norm_num)).mp hexponent
    obtain rfl : e = 1 := by omega
    rw [zpow_one] at hhigh
    refine ⟨?_, rfl⟩
    have hm : (m : ℚ) = 2 ^ 52 := by linarith
    exact_mod_cast hm

/-- An integer of at most 53 digits is shown as itself. -/
theorem shownMagnitude_eq_natCast (hform : (finite s m e).IsCanonical)
    (hvalue : (m : ℚ) * 2 ^ e = N) (hN : N ≤ 2 ^ 53) : shownMagnitude m e = N := by
  unfold shownMagnitude
  by_cases hm : m = 0
  · rw [if_pos hm, ← hvalue, hm, Nat.cast_zero, zero_mul]
  · rw [if_neg hm]
    rcases hshortest : shortest m e with ⟨c, k⟩
    have hpos : 0 < N := by
      rw [← Nat.cast_pos (α := ℚ), ← hvalue]
      have hcast : (0 : ℚ) < m := Nat.cast_pos.mpr (Nat.pos_of_ne_zero hm)
      positivity
    rcases hform.exponent_nonpos_or hvalue hN with he | ⟨rfl, rfl⟩
    · obtain ⟨j, rfl⟩ := Int.eq_ofNat_of_zero_le (shortest_exponent_nonneg hvalue hpos hN hshortest)
      -- both ends are half a unit away at most, and no other integer lies between them
      have hunit : (2 : ℚ) ^ e ≤ 1 := zpow_le_one_of_nonpos₀ (by norm_num) he
      have hhigh := (shortest_le hshortest).2
      have hlow := (le_lowEnd m e).trans (lowEnd_le_shortest hm hform hshortest)
      have hint : ((c * 10 ^ j : ℕ) : ℚ) = c * 10 ^ (j : ℤ) := by
        rw [zpow_natCast]
        push_cast
        rfl
      dsimp only
      rw [← hint] at hhigh hlow ⊢
      rw [add_mul, hvalue] at hhigh
      rw [sub_mul, hvalue] at hlow
      have hless : ((c * 10 ^ j : ℕ) : ℚ) < (N + 1 : ℕ) := by
        push_cast
        push_cast at hhigh
        linarith
      have hmore : (N : ℚ) < (c * 10 ^ j + 1 : ℕ) := by
        push_cast
        push_cast at hlow
        linarith
      have hless' := Nat.cast_lt.mp hless
      have hmore' := Nat.cast_lt.mp hmore
      exact_mod_cast (show c * 10 ^ j = N by omega)
    · have htop : shortest (2 ^ 52) 1 = (2 ^ 53, 0) := by decide +kernel
      cases hshortest.symm.trans htop
      rw [← hvalue]
      norm_num

/-! ## Integers of at most 53 digits -/

/-- The number is an integer of at most 53 binary digits, or `2 ^ 53` of either sign. -/
structure IsInteger (x : Binary64) (n : ℤ) : Prop where
  canonical : x.IsCanonical
  value_eq : x.value = n
  abs_le : |n| ≤ 2 ^ 53

theorem IsNearest.isInteger (h : x.IsNearest n) (hn : |n| ≤ 2 ^ 53) : x.IsInteger n :=
  ⟨h.canonical, h.value_eq_intCast hn, hn⟩

namespace IsInteger

theorem isFinite (h : x.IsInteger n) : x.isFinite := by
  have hx := h.canonical
  cases x with
  | finite s m e => rfl
  | infinite s => cases hx
  | nan => cases hx

theorem shown_value (h : x.IsInteger n) : x.shown.value = n := by
  obtain ⟨hx, hvalue, hn⟩ := h
  cases x with
  | infinite s => cases hx
  | nan => cases hx
  | finite s m e =>
      have hmagnitude : (m : ℚ) * 2 ^ e = n.natAbs := by
        rw [Nat.cast_natAbs, Int.cast_abs, ← hvalue]
        exact (abs_signed s (by positivity)).symm
      have habs : n.natAbs ≤ 2 ^ 53 := by
        rw [Int.abs_eq_natAbs] at hn
        exact_mod_cast hn
      rw [value_shown, shownMagnitude_eq_natCast hx hmagnitude habs, ← hmagnitude, ← hvalue]
      rfl

theorem nearest_lt (h : x.IsInteger n) : nearest |(n : ℚ)| < tenTo Decimal.precision := by
  have hn := h.abs_le
  rw [Int.abs_eq_natAbs] at hn
  rw [← Int.cast_abs, Int.abs_eq_natAbs, Int.cast_natCast, nearest_natCast]
  exact lt_of_le_of_lt (b := 2 ^ 53) (by exact_mod_cast hn) (by decide)

/-- The number is worth as many points. -/
theorem toPoints_eq (h : x.IsInteger n) : x.toPoints = .ok n := by
  have hexact := Value.IsExactly.float h.isFinite
  rw [h.shown_value] at hexact
  exact hexact.toPoints_eq_ok_iff.mpr ⟨h.nearest_lt, Decimal.nearestInt_intCast n⟩

/-- The text of the number reads back as a decimal that is worth as many points. -/
theorem exists_ofText (h : x.IsInteger n) :
    ∃ d, Decimal.ofText x.text = .ok d ∧ d.value = n ∧ d.toInteger = .ok n := by
  obtain ⟨s, c, k, hread, -, hvalue⟩ := exists_ofText_text h.canonical
  rw [h.shown_value] at hvalue
  refine ⟨_, hread, hvalue, ?_⟩
  rw [Decimal.toInteger_eq rfl, hvalue, if_pos h.nearest_lt, Decimal.nearestInt_intCast]

end IsInteger

end Binary64

end Qualify
