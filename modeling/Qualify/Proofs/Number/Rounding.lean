import Mathlib.Algebra.Order.Field.Power
import Mathlib.Algebra.Order.Floor.Semifield
import Mathlib.Data.Nat.Log
import Mathlib.Data.Rat.Floor
import Mathlib.Tactic.FieldSimp
import Mathlib.Tactic.Linarith
import Mathlib.Tactic.NormNum
import Mathlib.Tactic.Positivity
import Mathlib.Tactic.Ring
import Qualify.Number.Decimal

/-!
# Rounding decimals to integers

A decimal is rounded by its value alone: `Decimal.toInteger_finite` says that the integer nearest to
`c * 10 ^ e` is the floor of that rational number with one half added, however the coefficient and
the exponent share the value out between them.  Products by a short factor are exact
(`Decimal.mul_finite_of_lt`), so that a share of a decimal is rounded once only.
-/

namespace Qualify

/-- The natural number nearest to a rational one that is not negative, a half going up. -/
def nearest (q : ℚ) : ℕ := ⌊q + 1 / 2⌋₊

theorem nearest_natCast (n : ℕ) : nearest n = n := by
  have h : (0 : ℚ) ≤ n + 1 / 2 := by positivity
  rw [nearest, Nat.floor_eq_iff h]
  constructor <;> linarith

theorem nearest_mono {p q : ℚ} (h : p ≤ q) : nearest p ≤ nearest q :=
  Nat.floor_le_floor (by linarith)

/-- A quotient is rounded by adding half the divisor first. -/
theorem nearest_div (c d : ℕ) (hd : 0 < d) : nearest ((c : ℚ) / d) = (2 * c + d) / (2 * d) := by
  have h : (c : ℚ) / d + 1 / 2 = ((2 * c + d : ℕ) : ℚ) / ((2 * d : ℕ) : ℚ) := by
    push_cast
    field_simp
  rw [nearest, h, Nat.floor_div_eq_div]

theorem cast_tenTo (k : ℕ) : ((tenTo k : ℕ) : ℚ) = 10 ^ k := Nat.cast_pow 10 k

theorem cast_twoTo (k : ℕ) : ((twoTo k : ℕ) : ℚ) = 2 ^ k := Nat.cast_pow 2 k

theorem tenTo_pos (k : ℕ) : 0 < tenTo k := Nat.pow_pos (by decide)

namespace Decimal

/-- The shortcut for quotients far below one half agrees with the division that it saves. -/
theorem roundedQuotient_eq (c k : ℕ) :
    roundedQuotient c k = nearest ((c : ℚ) * 10 ^ Int.negSucc k) := by
  rw [zpow_negSucc, ← cast_tenTo, ← div_eq_mul_inv, nearest_div _ _ (tenTo_pos _), roundedQuotient]
  split
  · case isTrue h =>
      have hc : c < 2 ^ k := Nat.lt_log2_self.trans_le (Nat.pow_le_pow_right (by decide) h)
      have hpow : 2 * 2 ^ k ≤ tenTo (k + 1) := by
        calc 2 * 2 ^ k = 2 ^ (k + 1) := by ring
          _ ≤ 10 ^ (k + 1) := Nat.pow_le_pow_left (by decide) _
      exact (Nat.div_eq_of_lt (by omega)).symm
  · rfl

/-- A finite decimal becomes the integer nearest to its value if that has at most 28 digits. -/
theorem toInteger_finite (s : Bool) (c : ℕ) (e : ℤ) :
    (Decimal.finite s c e).toInteger =
      if nearest (c * 10 ^ e) < tenTo precision then
        .ok (if s then -(nearest (c * 10 ^ e) : ℤ) else nearest (c * 10 ^ e))
      else .error .invalidOperation := by
  unfold toInteger
  dsimp only
  cases e with
  | negSucc k => simp only [roundedQuotient_eq]
  | ofNat k =>
      have hvalue : nearest ((c : ℚ) * 10 ^ Int.ofNat k) = c * tenTo k := by
        have hcast : (c : ℚ) * 10 ^ Int.ofNat k = ((c * tenTo k : ℕ) : ℚ) := by
          rw [Nat.cast_mul, cast_tenTo, Int.ofNat_eq_natCast, zpow_natCast]
        rw [hcast, nearest_natCast]
      rw [hvalue]
      by_cases hc : c = 0
      · simp [hc]
      · by_cases hk : k < precision
        · simp only [hc, hk, if_false, if_true]
        · have hlarge : ¬ c * tenTo k < tenTo precision := by
            have hpow : tenTo precision ≤ tenTo k :=
              Nat.pow_le_pow_right (by decide) (Nat.le_of_not_lt hk)
            have hscale : tenTo k ≤ c * tenTo k :=
              Nat.le_mul_of_pos_left _ (Nat.pos_of_ne_zero hc)
            omega
          simp only [hc, hk, hlarge, if_false]

/-! ## Products -/

theorem digitCount_le_iff {n d : ℕ} (hd : 0 < d) : digitCount n ≤ d ↔ n < 10 ^ d :=
  Nat.length_toDigits_le_iff (by decide) hd

/-- A number has as many digits as it needs. -/
theorem tenTo_pred_digitCount_le {n : ℕ} (hn : n ≠ 0) : 10 ^ (digitCount n - 1) ≤ n := by
  by_cases hd : digitCount n ≤ 1
  · rw [Nat.sub_eq_zero_of_le hd, pow_zero]
    exact Nat.pos_of_ne_zero hn
  · rw [← Nat.not_lt, ← digitCount_le_iff (by omega)]
    omega

/-- A product of short coefficients is not rounded. -/
theorem mul_finite_of_lt {s s' : Bool} {c c' : ℕ} {e e' : ℤ} (h : c * c' < tenTo precision) :
    (Decimal.finite s c e).mul (.finite s' c' e') =
      if c * c' ≠ 0 ∧ largestExponent < e + e' + digitCount (c * c') - 1 then .error .overflow
      else .ok (.finite (s != s') (c * c') (e + e')) := by
  have hexcess : digitCount (c * c') - precision = 0 :=
    Nat.sub_eq_zero_of_le ((digitCount_le_iff (by decide)).mpr h)
  have hquotient : evenQuotient (c * c') 0 = c * c' := by simp [evenQuotient, Nat.mod_one]
  simp only [mul, rounded, hexcess, hquotient, Nat.cast_zero, add_zero]

/-- The nearest integer to a product of short coefficients is that of the exact product. -/
theorem mul_toInteger_eq_ok_iff {s s' : Bool} {c c' : ℕ} {e e' : ℤ} {p : ℤ}
    (h : c * c' < tenTo precision) :
    (∃ d, (Decimal.finite s c e).mul (.finite s' c' e') = .ok d ∧ d.toInteger = .ok p) ↔
      (Decimal.finite (s != s') (c * c') (e + e')).toInteger = .ok p := by
  rw [mul_finite_of_lt h]
  split
  · case isTrue hover =>
      -- a product past the largest exponent has far more than 28 digits
      obtain ⟨hne, hover⟩ := hover
      have hlarge : ((tenTo precision : ℕ) : ℚ) ≤ (c * c' : ℕ) * 10 ^ (e + e') := by
        have hcoefficient : ((10 : ℚ)) ^ (digitCount (c * c') - 1 : ℕ) ≤ (c * c' : ℕ) := by
          exact_mod_cast tenTo_pred_digitCount_le hne
        have hpow : (0 : ℚ) < 10 ^ (e + e') := by positivity
        have hexponent : (precision : ℤ) ≤ (digitCount (c * c') - 1 : ℕ) + (e + e') := by
          unfold largestExponent at hover
          unfold precision
          omega
        calc ((tenTo precision : ℕ) : ℚ) = 10 ^ (precision : ℤ) := by
              rw [cast_tenTo, zpow_natCast]
          _ ≤ 10 ^ (((digitCount (c * c') - 1 : ℕ) : ℤ) + (e + e')) :=
              zpow_le_zpow_right₀ (by norm_num) hexponent
          _ = 10 ^ (digitCount (c * c') - 1 : ℕ) * 10 ^ (e + e') := by
              rw [zpow_add₀ (by norm_num), zpow_natCast]
          _ ≤ (c * c' : ℕ) * 10 ^ (e + e') := by gcongr
      have hnearest : ¬ nearest ((c * c' : ℕ) * 10 ^ (e + e')) < tenTo precision := by
        have hmono := nearest_mono hlarge
        rw [nearest_natCast] at hmono
        exact Nat.not_lt.mpr hmono
      rw [toInteger_finite, if_neg hnearest]
      simp
  · simp

end Decimal

end Qualify
