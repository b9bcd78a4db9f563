import Mathlib.Data.Nat.Cast.Order.Field
import Qualify.Proofs.Number.Shortest

/-!
# Grids of powers of two

A rational number is rounded to the integer nearest to it, the even one of two (`IsNearestEven`).
Every magnitude has a grid of powers of two on which it has 53 binary digits, and no grid is finer
than the one at the bottom of the format (`Binary64.HasExponent`).  Numbers that are rounded each on
its own grid stay in order (`Binary64.HasExponent.rounded_le`).
-/

namespace Qualify

/-! ## Integers nearest to a rational number -/

/-- An integer nearest to a rational number, the even one of two. -/
structure IsNearestEven (n : ℤ) (q : ℚ) : Prop where
  near : |q - n| ≤ 1 / 2
  even : |q - n| = 1 / 2 → Even n

namespace IsNearestEven

variable {m n : ℤ} {p q : ℚ}

theorem of_lt (h : |q - n| < 1 / 2) : IsNearestEven n q := ⟨h.le, fun htie => absurd htie h.ne⟩

theorem of_even (h : |q - n| ≤ 1 / 2) (hn : Even n) : IsNearestEven n q := ⟨h, fun _ => hn⟩

theorem intCast (n : ℤ) : IsNearestEven n n := of_lt (by simp)

theorem neg (h : IsNearestEven n q) : IsNearestEven (-n) (-q) := by
  have hdistance : |-q - ((-n : ℤ) : ℚ)| = |q - n| := by
    rw [Int.cast_neg, neg_sub_neg, abs_sub_comm]
  constructor
  · rw [hdistance]
    exact h.near
  · intro hhalf
    rw [hdistance] at hhalf
    exact (h.even hhalf).neg

/-- A larger number has no smaller integer nearest to it: only a tie could have both, and of
neighbours one alone is even. -/
theorem mono (hm : IsNearestEven m p) (hn : IsNearestEven n q) (h : p ≤ q) : m ≤ n := by
  by_contra hlt
  have hle : (n : ℚ) + 1 ≤ m := by exact_mod_cast not_le.mp hlt
  have hp := abs_le.mp hm.near
  have hq := abs_le.mp hn.near
  have htieM : p - m = -(1 / 2) := by linarith
  have htieN : q - n = 1 / 2 := by linarith
  have hevenM : Even m := hm.even (by rw [htieM]; norm_num)
  have hevenN : Even n := hn.even (by rw [htieN]; norm_num)
  have hnext : m = n + 1 := by
    have hcast : (m : ℚ) = n + 1 := by linarith
    exact_mod_cast hcast
  rw [hnext, Int.even_add_one] at hevenM
  exact hevenM hevenN

end IsNearestEven

/-- The whole number below or the next one, by the fraction beyond it: the nearer one, and the even
one of two. -/
def evenOf (k : ℕ) (t : ℚ) : ℕ :=
  if t < 1 / 2 then k else if 1 / 2 < t then k + 1 else if k % 2 = 0 then k else k + 1

theorem evenOf_isNearestEven {k : ℕ} {q : ℚ} (hlow : 0 ≤ q - k) (hhigh : q - k < 1) :
    IsNearestEven (evenOf k (q - k)) q := by
  have hbelow : |q - ((k : ℤ) : ℚ)| = q - k := by
    rw [Int.cast_natCast]
    exact abs_of_nonneg hlow
  have habove : |q - (((k + 1 : ℕ) : ℤ) : ℚ)| = 1 - (q - k) := by
    rw [Int.cast_natCast, abs_sub_comm, Nat.cast_add, Nat.cast_one]
    rw [abs_of_nonneg (by linarith)]
    ring
  unfold evenOf
  split
  · case isTrue h => exact .of_lt (hbelow.trans_lt h)
  · case isFalse hge =>
      split
      · case isTrue h => exact .of_lt (habove.trans_lt (by linarith))
      · case isFalse hle =>
          split
          · case isTrue heven =>
              refine .of_even (hbelow.trans_le (not_lt.mp hle)) ?_
              exact_mod_cast Nat.even_iff.mpr heven
          · case isFalse hodd =>
              refine .of_even (habove.trans_le (by linarith)) ?_
              exact_mod_cast Nat.even_iff.mpr (by omega)

namespace Binary64

/-- The quotient is decided on by the fraction beyond the whole number below. -/
theorem evenDiv_eq (num : ℕ) {den : ℕ} (hden : 0 < den) :
    evenDiv num den = evenOf (num / den) (num / den - (num / den : ℕ)) := by
  have hpos : (0 : ℚ) < den := Nat.cast_pos.mpr hden
  have hcast : (num : ℚ) = den * (num / den : ℕ) + (num % den : ℕ) := by
    exact_mod_cast (Nat.div_add_mod num den).symm
  have hfraction : (num : ℚ) / den - (num / den : ℕ) = (num % den : ℕ) / den := by
    rw [sub_eq_iff_eq_add, div_add' _ _ _ hpos.ne', hcast]
    ring
  have hless : 2 * (num % den) < den ↔ ((num % den : ℕ) : ℚ) / den < 1 / 2 := by
    rw [div_lt_div_iff₀ hpos (by norm_num), mul_comm, one_mul]
    exact_mod_cast Iff.rfl
  have hmore : den < 2 * (num % den) ↔ (1 / 2 : ℚ) < (num % den : ℕ) / den := by
    rw [div_lt_div_iff₀ (by norm_num) hpos, one_mul, mul_comm]
    exact_mod_cast Iff.rfl
  rw [hfraction, evenOf]
  simp only [evenDiv, hless, hmore]

theorem evenDiv_isNearestEven (num : ℕ) {den : ℕ} (hden : 0 < den) :
    IsNearestEven (evenDiv num den) (num / den) := by
  rw [evenDiv_eq num hden]
  refine evenOf_isNearestEven ?_ ?_
  · exact sub_nonneg.mpr Nat.cast_div_le
  · have hlt : (num : ℚ) / den < (num / den : ℕ) + 1 := by
      rw [div_lt_iff₀ (Nat.cast_pos.mpr hden)]
      exact_mod_cast Nat.lt_mul_of_div_lt (Nat.lt_succ_self _) hden
    linarith

/-! ## Grids of powers of two -/

/-- The exponent of the grid on which a rational number is rounded: 53 digits suffice for it, and
they are needed unless the grid is the finest. -/
structure HasExponent (q : ℚ) (e : ℤ) : Prop where
  least : leastExponent ≤ e
  lt : |q| < 2 ^ (e + 53)
  le : leastExponent < e → 2 ^ (e + 52) ≤ |q|

namespace HasExponent

variable {p q : ℚ} {e f m n : ℤ}

theorem neg (h : HasExponent q e) : HasExponent (-q) e where
  least := h.least
  lt := (abs_neg q).symm ▸ h.lt
  le := fun he => (abs_neg q).symm ▸ h.le he

/-- Shifted to its grid, a number stays below `2 ^ 53`. -/
theorem div_lt (h : HasExponent q e) : |q / 2 ^ e| < 2 ^ 53 := by
  have hpow : (0 : ℚ) < 2 ^ e := by positivity
  rw [abs_div, abs_of_pos hpow, div_lt_iff₀ hpow, mul_comm, ← zpow_natCast,
    ← zpow_add₀ (by norm_num)]
  exact h.lt

theorem le_div (h : HasExponent q e) (he : leastExponent < e) : 2 ^ 52 ≤ |q / 2 ^ e| := by
  have hpow : (0 : ℚ) < 2 ^ e := by positivity
  rw [abs_div, abs_of_pos hpow, le_div_iff₀ hpow, mul_comm, ← zpow_natCast,
    ← zpow_add₀ (by norm_num)]
  exact h.le he

/-- The point of the grid nearest to a number has at most 53 digits, or is the next one. -/
theorem rounded_le_twoTo (h : HasExponent q e) (hn : IsNearestEven n (q / 2 ^ e)) : n ≤ 2 ^ 53 := by
  refine hn.mono (.intCast (2 ^ 53)) ?_
  exact_mod_cast (le_abs_self _).trans h.div_lt.le

theorem twoTo_le_rounded (h : HasExponent q e) (hn : IsNearestEven n (q / 2 ^ e)) (hq : 0 ≤ q)
    (he : leastExponent < e) : 2 ^ 52 ≤ n := by
  have hpow : (0 : ℚ) < 2 ^ e := by positivity
  refine (IsNearestEven.intCast (2 ^ 52)).mono hn ?_
  have hle := h.le_div he
  rw [abs_of_nonneg (div_nonneg hq hpow.le)] at hle
  exact_mod_cast hle

/-- Small numbers are far from the largest exponent. -/
theorem lt_largestExponent (h : HasExponent q e) (hq : |q| < 2 ^ 100) : e < largestExponent := by
  by_contra hlarge
  have hexponent : (100 : ℤ) ≤ e + 52 := by
    unfold largestExponent at hlarge
    omega
  have hle := h.le ((show leastExponent < largestExponent by decide).trans_le (not_lt.mp hlarge))
  have hpow : (2 : ℚ) ^ (100 : ℤ) ≤ 2 ^ (e + 52) := zpow_le_zpow_right₀ (by norm_num) hexponent
  exact absurd (hpow.trans hle) (not_le.mpr (by exact_mod_cast hq))

end HasExponent

end Binary64

end Qualify
