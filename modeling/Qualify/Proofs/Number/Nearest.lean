import Qualify.Proofs.Number.Grid
import Qualify.Proofs.Number.Order

/-!
# The binary64 number nearest to a rational one

A number of the format is nearest to a rational one if it is the nearest point of the grid on which
that is rounded (`Binary64.IsNearest`).  This holds of what ratios, integers and decimals are
rounded to, and of every number of the format and its own value, so that one lemma about order
covers all of them (`Binary64.IsNearest.value_mono`).
-/

namespace Qualify.Binary64

/-! ## Numbers of the format -/

/-- The rational number that a finite number is. -/
def value : Binary64 → ℚ
  | .finite s m e => if s then -(m * 2 ^ e) else m * 2 ^ e
  | _ => 0

theorem value_positive (m : ℕ) (e : ℤ) : (finite false m e).value = m * 2 ^ e := rfl

theorem value_negative (m : ℕ) (e : ℤ) : (finite true m e).value = -(m * 2 ^ e) := rfl

/-- The number is finite and written as the format has it: with a full significand, unless the
exponent is the least. -/
def IsCanonical : Binary64 → Prop
  | .finite _ m e =>
    m < 2 ^ 53 ∧ leastExponent ≤ e ∧ e ≤ largestExponent ∧ (leastExponent < e → 2 ^ 52 ≤ m)
  | _ => False

instance : DecidablePred IsCanonical := fun x =>
  match x with
  | .finite _ m e => inferInstanceAs (Decidable (m < 2 ^ 53 ∧ leastExponent ≤ e ∧
      e ≤ largestExponent ∧ (leastExponent < e → 2 ^ 52 ≤ m)))
  | .infinite _ | .nan => inferInstanceAs (Decidable False)

/-- A number of the format is the nearest one to a rational number. -/
structure IsNearest (x : Binary64) (q : ℚ) : Prop where
  canonical : x.IsCanonical
  rounded : ∃ e n, HasExponent q e ∧ IsNearestEven n (q / 2 ^ e) ∧ x.value = n * 2 ^ e

variable {x y : Binary64} {p q : ℚ} {num den : ℕ}

/-- A number of the format is the nearest one to its value. -/
theorem IsCanonical.isNearest (h : x.IsCanonical) : x.IsNearest x.value := by
  refine ⟨h, ?_⟩
  cases x with
  | infinite s => cases h
  | nan => cases h
  | finite s m e =>
      obtain ⟨hm, hleast, -, hfull⟩ := h
      have hpow : (0 : ℚ) < 2 ^ e := by positivity
      have habs : |(finite s m e).value| = m * 2 ^ e := abs_signed s (by positivity)
      have hvalue : (finite s m e).value = ((if s then -m else m : ℤ) : ℚ) * 2 ^ e := by
        cases s with
        | false => simp [value]
        | true => simp [value]
      refine ⟨e, if s then -m else m, ⟨hleast, ?_, ?_⟩, ?_, hvalue⟩
      · rw [habs, add_comm, zpow_add₀ (by norm_num)]
        gcongr
        exact_mod_cast hm
      · intro he
        rw [habs, add_comm, zpow_add₀ (by norm_num)]
        gcongr
        exact_mod_cast hfull he
      · rw [hvalue, mul_div_assoc, div_self hpow.ne', mul_one]
        exact .intCast _

/-! ## Rounding ratios -/

theorem two_pow_log2_le (hnum : num ≠ 0) : (2 : ℚ) ^ (num.log2 : ℤ) ≤ num := by
  rw [zpow_natCast]
  exact_mod_cast Nat.log2_self_le hnum

theorem lt_two_pow_log2 (num : ℕ) : (num : ℚ) < 2 ^ (num.log2 + 1 : ℤ) := by
  exact_mod_cast Nat.lt_log2_self (n := num)

/-- A number of 53 digits on one grid is rounded there, or on the finest grid if that is coarser. -/
theorem HasExponent.max_leastExponent {k : ℤ} (hlow : 2 ^ (k + 52) ≤ q) (hhigh : q < 2 ^ (k + 53)) :
    HasExponent q (max leastExponent k) := by
  have hpow : (0 : ℚ) < 2 ^ (k + 52) := by positivity
  have hq : |q| = q := abs_of_pos (hpow.trans_le hlow)
  refine ⟨le_max_left _ _, ?_, fun h => ?_⟩
  · rw [hq]
    refine hhigh.trans_le (zpow_le_zpow_right₀ (by norm_num) ?_)
    exact add_le_add_left (le_max_right _ _) 53
  · rw [hq, max_eq_right ((lt_max_iff.mp h).resolve_left (lt_irrefl _)).le]
    exact hlow

/-- The exponent that is chosen is that of the grid on which the ratio is rounded. -/
theorem exponentFor_hasExponent (hnum : num ≠ 0) (hden : den ≠ 0) :
    HasExponent (num / den) (exponentFor num den) := by
  have hden' : (0 : ℚ) < den := Nat.cast_pos.mpr (Nat.pos_of_ne_zero hden)
  have hexponent : exponentFor num den = max leastExponent
      (if num * (scaledRatio den (num.log2 - den.log2 - 52)).2 <
          (scaledRatio den (num.log2 - den.log2 - 52)).1 * twoTo 52
        then num.log2 - den.log2 - 52 - 1 else num.log2 - den.log2 - 52) := rfl
  rw [hexponent]
  have hhigh : (num : ℚ) / den < 2 ^ ((num.log2 - den.log2 - 52 : ℤ) + 53) := by
    rw [show (num.log2 - den.log2 - 52 : ℤ) + 53 = (num.log2 + 1) - den.log2 by ring,
      zpow_sub₀ (by norm_num)]
    exact div_lt_div₀ (lt_two_pow_log2 num) (two_pow_log2_le hden) (by positivity) (by positivity)
  have hlow : 2 ^ ((num.log2 - den.log2 - 52 : ℤ) - 1 + 52) ≤ (num : ℚ) / den := by
    rw [show (num.log2 - den.log2 - 52 : ℤ) - 1 + 52 = num.log2 - (den.log2 + 1) by ring,
      zpow_sub₀ (by norm_num)]
    exact div_le_div₀ (Nat.cast_nonneg _) (two_pow_log2_le hnum) hden' (lt_two_pow_log2 den).le
  generalize (num.log2 - den.log2 - 52 : ℤ) = guess at *
  have hguess : num * (scaledRatio den guess).2 < (scaledRatio den guess).1 * twoTo 52 ↔
      (num : ℚ) / den < 2 ^ (guess + 52) := by
    have hb : (0 : ℚ) < (scaledRatio den guess).2 :=
      Nat.cast_pos.mpr (scaledRatio_den_pos den guess)
    have hscaled := (div_eq_iff hb.ne').mp (scaledRatio_eq den guess)
    rw [← Nat.cast_lt (α := ℚ), Nat.cast_mul, Nat.cast_mul, hscaled, cast_twoTo, div_lt_iff₀ hden',
      zpow_add₀ (by norm_num), show (den : ℚ) * 2 ^ guess * (scaledRatio den guess).2 * 2 ^ 52 =
        2 ^ guess * 2 ^ (52 : ℤ) * den * (scaledRatio den guess).2 by norm_cast; ring,
      mul_lt_mul_iff_left₀ hb]
  split
  · case isTrue h =>
      refine .max_leastExponent hlow ?_
      rw [show guess - 1 + 53 = guess + 52 by ring]
      exact hguess.mp h
  · case isFalse h => exact .max_leastExponent (not_lt.mp fun hlt => h (hguess.mpr hlt)) hhigh

/-- The significand is the integer nearest to the ratio on its grid. -/
theorem significand_isNearestEven (num : ℕ) (hden : den ≠ 0) (e : ℤ) :
    IsNearestEven (evenDiv (num * (scaledRatio den e).2) (scaledRatio den e).1)
      (num / den / 2 ^ e) := by
  have hden' : (0 : ℚ) < den := Nat.cast_pos.mpr (Nat.pos_of_ne_zero hden)
  have hb : (0 : ℚ) < (scaledRatio den e).2 := Nat.cast_pos.mpr (scaledRatio_den_pos den e)
  have hscaled := (div_eq_iff hb.ne').mp (scaledRatio_eq den e)
  have ha : 0 < (scaledRatio den e).1 := by
    rw [← Nat.cast_pos (α := ℚ), hscaled]
    positivity
  have hshift : (num : ℚ) / den / 2 ^ e =
      (num * (scaledRatio den e).2 : ℕ) / (scaledRatio den e).1 := by
    rw [hscaled, Nat.cast_mul, mul_div_mul_right _ _ hb.ne', div_div]
  rw [hshift]
  exact evenDiv_isNearestEven _ ha

theorem isNearest_zero (s : Bool) : (finite s 0 leastExponent).IsNearest 0 := by
  have hcanonical : (finite s 0 leastExponent).IsCanonical := ⟨by decide, le_rfl, by decide, nofun⟩
  have hvalue : (finite s 0 leastExponent).value = 0 := by cases s <;> simp [value]
  exact hvalue ▸ hcanonical.isNearest

/-- A ratio is rounded on its grid, and goes on to the next one if it comes out one digit longer. -/
theorem ofRatio_eq (s : Bool) (hnum : num ≠ 0) {e : ℤ} (he : exponentFor num den = e) {m : ℕ}
    (hm : evenDiv (num * (scaledRatio den e).2) (scaledRatio den e).1 = m) :
    ofRatio s num den =
      if m = twoTo 53 then
        if largestExponent < e + 1 then .infinite s else .finite s (twoTo 52) (e + 1)
      else if largestExponent < e then .infinite s else .finite s m e := by
  unfold ofRatio
  rw [if_neg hnum]
  extract_lets e'
  rw [show e' = e from he]
  rcases hscaled : scaledRatio den e with ⟨a, b⟩
  rw [hscaled] at hm
  obtain rfl : evenDiv (num * b) a = m := hm
  dsimp only
  split
  · rfl
  · rfl

theorem ofRatio_isNearest_of_positive (hden : den ≠ 0) (h : (num / den : ℚ) < 2 ^ 100) :
    (ofRatio false num den).IsNearest (num / den) := by
  by_cases hnum : num = 0
  · rw [ofRatio, if_pos hnum, hnum, Nat.cast_zero, zero_div]
    exact isNearest_zero false
  · have hratio : (0 : ℚ) ≤ num / den := by positivity
    have hexponent := exponentFor_hasExponent hnum hden
    have hnearest := significand_isNearestEven num hden (exponentFor num den)
    rw [ofRatio_eq false hnum rfl rfl]
    generalize exponentFor num den = e at *
    generalize evenDiv (num * (scaledRatio den e).2) (scaledRatio den e).1 = m at *
    have hlargest := hexponent.lt_largestExponent ((abs_of_nonneg hratio).symm ▸ h)
    have hm := hexponent.rounded_le_twoTo hnearest
    have hfull := hexponent.twoTo_le_rounded hnearest hratio
    split
    · case isTrue hcarry =>
        rw [if_neg (not_lt.mpr hlargest)]
        refine ⟨⟨?_, hexponent.least.trans (by omega), hlargest, ?_⟩, e, m, hexponent, hnearest, ?_⟩
        · norm_num
        · intro _
          norm_num
        · rw [hcarry, value, zpow_add₀ (by norm_num)]
          push_cast
          norm_num
          ring
    · case isFalse hcarry =>
        rw [if_neg (not_lt.mpr hlargest.le)]
        refine ⟨⟨?_, hexponent.least, hlargest.le, ?_⟩, e, m, hexponent, hnearest, ?_⟩
        · exact_mod_cast lt_of_le_of_ne hm (by exact_mod_cast hcarry)
        · intro he
          exact_mod_cast hfull he
        · simp [value]

theorem IsNearest.neg (h : x.IsNearest q) : x.neg.IsNearest (-q) := by
  obtain ⟨hcanonical, e, n, hexponent, hnearest, hvalue⟩ := h
  cases x with
  | infinite s => cases hcanonical
  | nan => cases hcanonical
  | finite s m f =>
      refine ⟨hcanonical, e, -n, hexponent.neg, neg_div (2 ^ e : ℚ) q ▸ hnearest.neg, ?_⟩
      have hneg : (finite s m f).neg.value = -(finite s m f).value := by
        cases s with
        | false => rfl
        | true => exact (neg_neg _).symm
      rw [hneg, hvalue, Int.cast_neg, neg_mul]

theorem ofRatio_negative (num den : ℕ) : ofRatio true num den = (ofRatio false num den).neg := by
  by_cases hnum : num = 0
  · rw [ofRatio, if_pos hnum, ofRatio, if_pos hnum]
    rfl
  · rw [ofRatio_eq true hnum rfl rfl, ofRatio_eq false hnum rfl rfl]
    split
    · split
      · rfl
      · rfl
    · split
      · rfl
      · rfl

/-- A small ratio is rounded to the number nearest to it. -/
theorem ofRatio_isNearest (s : Bool) (hden : den ≠ 0) (h : (num / den : ℚ) < 2 ^ 100) :
    (ofRatio s num den).IsNearest (if s then -(num / den) else num / den) := by
  cases s with
  | false => exact ofRatio_isNearest_of_positive hden h
  | true => exact ofRatio_negative num den ▸ (ofRatio_isNearest_of_positive hden h).neg

theorem ofInt_isNearest {n : ℤ} (h : |(n : ℚ)| < 2 ^ 100) : (ofInt n).IsNearest n := by
  have habs : ((n.natAbs : ℕ) : ℚ) / (1 : ℕ) = |(n : ℚ)| := by
    rw [Nat.cast_one, div_one, Nat.cast_natAbs, Int.cast_abs]
  have hnearest := ofRatio_isNearest (decide (n < 0)) one_ne_zero (habs.trans_lt h)
  rw [habs] at hnearest
  unfold ofInt
  rcases lt_or_ge n 0 with hn | hn
  · rw [if_pos (decide_eq_true hn), abs_of_neg (Int.cast_lt_zero.mpr hn), neg_neg] at hnearest
    exact hnearest
  · rw [if_neg (by simpa using hn), abs_of_nonneg (Int.cast_nonneg hn)] at hnearest
    exact hnearest

theorem ofInt?_eq_some {n : ℤ} (h : |(n : ℚ)| < 2 ^ 100) : ofInt? n = some (ofInt n) := by
  have hcanonical := (ofInt_isNearest h).canonical
  unfold ofInt?
  cases hx : ofInt n with
  | finite s m e => rfl
  | nan => rfl
  | infinite s =>
      rw [hx] at hcanonical
      cases hcanonical

/-! ## Rounding decimals -/

/-- What is too small for the format is rounded to zero. -/
theorem isNearest_zero_of_lt (s : Bool) (h : |q| < 2 ^ (-1075 : ℤ)) :
    (finite s 0 leastExponent).IsNearest q := by
  have hexponent : HasExponent q leastExponent := by
    refine ⟨le_rfl, h.trans_le (zpow_le_zpow_right₀ (by norm_num) (by decide)), fun hlt => ?_⟩
    exact absurd hlt (lt_irrefl _)
  refine ⟨(isNearest_zero s).canonical, leastExponent, 0, hexponent, .of_lt ?_, ?_⟩
  · have hpow : (0 : ℚ) < 2 ^ leastExponent := by positivity
    rw [Int.cast_zero, sub_zero, abs_div, abs_of_pos hpow, div_lt_iff₀ hpow]
    refine h.trans_le ?_
    rw [show leastExponent = -1075 + 1 from rfl, zpow_add₀ (by norm_num)]
    exact le_of_eq (by ring)
  · cases s <;> simp [value]

/-- The exponent and the number of digits bound a decimal from above. -/
theorem decimal_lt (c : ℕ) (e : ℤ) : (c : ℚ) * 10 ^ e < 10 ^ (e + digitCount c) := by
  have hdigits : c < 10 ^ digitCount c :=
    (Decimal.digitCount_le_iff Nat.length_toDigits_pos).mp le_rfl
  rw [add_comm, zpow_add₀ (by norm_num), zpow_natCast]
  gcongr
  exact_mod_cast hdigits

theorem le_decimal {c : ℕ} (hc : c ≠ 0) (e : ℤ) :
    10 ^ (e + digitCount c - 1) ≤ (c : ℚ) * 10 ^ e := by
  have hpos : 0 < digitCount c := Nat.length_toDigits_pos
  have hexponent : e + digitCount c - 1 = ((digitCount c - 1 : ℕ) : ℤ) + e := by omega
  rw [hexponent, zpow_add₀ (by norm_num), zpow_natCast]
  gcongr
  exact_mod_cast Decimal.tenTo_pred_digitCount_le hc

theorem ofDecimal_isNearest_of_finite (s : Bool) (c : ℕ) (e : ℤ) (h : (c : ℚ) * 10 ^ e < 2 ^ 100) :
    (ofDecimal (.finite s c e)).IsNearest (if s then -(c * 10 ^ e) else c * 10 ^ e) := by
  unfold ofDecimal
  dsimp only
  by_cases hc : c = 0
  · rw [if_pos hc, hc]
    simpa using isNearest_zero s
  · rw [if_neg hc]
    split
    · case isTrue hlarge =>
        -- so many places before the point are out of reach
        have hpow : (2 : ℚ) ^ 100 ≤ 10 ^ (e + digitCount c - 1) := by
          calc (2 : ℚ) ^ 100 ≤ 10 ^ (31 : ℤ) := by norm_num
            _ ≤ 10 ^ (e + digitCount c - 1) := zpow_le_zpow_right₀ (by norm_num) (by omega)
        exact absurd h (not_lt.mpr (hpow.trans (le_decimal hc e)))
    · split
      · case isTrue hsmall =>
          refine isNearest_zero_of_lt s ?_
          have hbottom : (10 : ℚ) ^ (-341 : ℤ) ≤ 2 ^ (-1075 : ℤ) := by
            have hpow : 2 ^ 1075 ≤ 10 ^ 341 := by decide +kernel
            rw [zpow_neg, zpow_neg]
            refine inv_anti₀ (by positivity) ?_
            exact_mod_cast hpow
          rw [abs_signed s (by positivity)]
          calc (c : ℚ) * 10 ^ e < 10 ^ (e + digitCount c) := decimal_lt c e
            _ ≤ 10 ^ (-341 : ℤ) := zpow_le_zpow_right₀ (by norm_num) (by omega)
            _ ≤ 2 ^ (-1075 : ℤ) := hbottom
      · cases e with
        | ofNat k =>
            have hvalue : ((c * tenTo k : ℕ) : ℚ) / (1 : ℕ) = c * 10 ^ Int.ofNat k := by
              rw [Nat.cast_mul, cast_tenTo, Nat.cast_one, div_one, Int.ofNat_eq_natCast,
                zpow_natCast]
            rw [← hvalue] at h ⊢
            exact ofRatio_isNearest s one_ne_zero h
        | negSucc k =>
            have hvalue : (c : ℚ) / (tenTo (k + 1) : ℕ) = c * 10 ^ Int.negSucc k := by
              rw [cast_tenTo, zpow_negSucc, div_eq_mul_inv]
            rw [← hvalue] at h ⊢
            exact ofRatio_isNearest s (tenTo_pos _).ne' h

/-- A small decimal is rounded to the number nearest to it. -/
theorem ofDecimal_isNearest {d : Decimal} (hfinite : d.isFinite) (h : |d.value| < 2 ^ 100) :
    (ofDecimal d).IsNearest d.value := by
  cases d with
  | infinite s => cases hfinite
  | nan => cases hfinite
  | finite s c e =>
      exact ofDecimal_isNearest_of_finite s c e
        ((abs_signed s (show (0 : ℚ) ≤ c * 10 ^ e by positivity)).symm.trans_lt h)

end Qualify.Binary64
