import Qualify.Proofs.Points.Exact
import Qualify.Vocabulary

/-!
# Points of a product

A product is rounded to 28 digits before it is rounded to an integer.  As long as the coefficients
multiply to no more digits than that, the first rounding does nothing, and the points are those of
the exact product (`Decimal.IsShortProduct.scaledPoints_eq_ok_iff`).  So it is for every number of
the format and every share of the vocabulary: the one is written with eighteen digits and the other
in hundredths.
-/

namespace Qualify

namespace Decimal

/-- The digits of a finite decimal. -/
def coefficient : Decimal → ℕ
  | .finite _ c _ => c
  | _ => 0

/-- Two finite decimals whose coefficients have a product of at most 28 digits. -/
structure IsShortProduct (a b : Decimal) : Prop where
  left : a.isFinite
  right : b.isFinite
  short : digitCount (a.coefficient * b.coefficient) ≤ precision

variable {a b a' b' : Decimal} {p p' : ℤ}

instance : Decidable (a.IsShortProduct b) :=
  decidable_of_iff
    (a.isFinite ∧ b.isFinite ∧ digitCount (a.coefficient * b.coefficient) ≤ precision)
    ⟨fun h => ⟨h.1, h.2.1, h.2.2⟩, fun h => ⟨h.left, h.right, h.short⟩⟩

/-- Coefficients of at most nineteen digits and at most three have a short product. -/
theorem isShortProduct_of_le (ha : a.isFinite) (hb : b.isFinite) (hac : a.coefficient ≤ 10 ^ 18)
    (hbc : b.coefficient ≤ 100) : a.IsShortProduct b := by
  refine ⟨ha, hb, digitCount_le_of_lt (by decide) ?_⟩
  calc a.coefficient * b.coefficient ≤ 10 ^ 18 * 100 := Nat.mul_le_mul hac hbc
    _ < tenTo precision := by decide

theorem value_mul (s s' : Bool) (c c' : ℕ) (e e' : ℤ) :
    (finite (s != s') (c * c') (e + e')).value = (finite s c e).value * (finite s' c' e').value := by
  have hmagnitude : ((c * c' : ℕ) : ℚ) * 10 ^ (e + e') = c * 10 ^ e * (c' * 10 ^ e') := by
    rw [zpow_add₀ (by norm_num), Nat.cast_mul]
    ring
  cases s with
  | false =>
      cases s' with
      | false => exact hmagnitude
      | true => exact (congrArg (- ·) hmagnitude).trans (mul_neg _ _).symm
  | true =>
      cases s' with
      | false => exact (congrArg (- ·) hmagnitude).trans (neg_mul _ _).symm
      | true => exact hmagnitude.trans (neg_mul_neg _ _).symm

namespace IsShortProduct

/-- A short product is rounded once. -/
theorem scaledPoints_eq_ok_iff (h : a.IsShortProduct b) :
    scaledPoints a b = .ok p ↔
      nearest |a.value * b.value| < tenTo precision ∧ nearestInt (a.value * b.value) = p := by
  obtain ⟨ha, hb, hshort⟩ := h
  cases a with
  | infinite => cases ha
  | nan => cases ha
  | finite s c e =>
      cases b with
      | infinite => cases hb
      | nan => cases hb
      | finite s' c' e' =>
          have hlt : c * c' < tenTo precision := (digitCount_le_iff (by decide)).mp hshort
          rw [Qualify.scaledPoints_eq_ok_iff, mul_toInteger_eq_ok_iff hlt, toInteger_eq rfl,
            value_mul]
          split
          · case isTrue hsmall => rw [Except.ok.injEq, and_iff_right hsmall]
          · case isFalse hlarge => exact iff_of_false nofun fun hp => hlarge hp.1

theorem toOption_scaledPoints (h : a.IsShortProduct b) : (scaledPoints a b).toOption =
    if nearest |a.value * b.value| < tenTo precision then some (nearestInt (a.value * b.value))
    else none := by
  cases hpoints : scaledPoints a b with
  | ok p =>
      obtain ⟨hsmall, rfl⟩ := h.scaledPoints_eq_ok_iff.mp hpoints
      exact (if_pos hsmall).symm
  | error f =>
      refine (if_neg fun hsmall => ?_).symm
      cases hpoints.symm.trans (h.scaledPoints_eq_ok_iff.mpr ⟨hsmall, rfl⟩)

/-- A smaller product of decimals that are not negative has points if the larger one has, and no
more of them. -/
theorem exists_scaledPoints_le (h : a.IsShortProduct b) (h' : a'.IsShortProduct b')
    (ha : 0 ≤ a.value) (hb : 0 ≤ b.value) (hle : a.value ≤ a'.value) (hle' : b.value ≤ b'.value)
    (hp' : scaledPoints a' b' = .ok p') : ∃ p, scaledPoints a b = .ok p ∧ p ≤ p' := by
  obtain ⟨hsmall, rfl⟩ := h'.scaledPoints_eq_ok_iff.mp hp'
  have hmul : a.value * b.value ≤ a'.value * b'.value :=
    mul_le_mul hle hle' hb (ha.trans hle)
  have hnonneg : 0 ≤ a.value * b.value := mul_nonneg ha hb
  refine ⟨_, h.scaledPoints_eq_ok_iff.mpr ⟨?_, rfl⟩, nearestInt_mono hmul⟩
  rw [abs_of_nonneg hnonneg]
  rw [abs_of_nonneg (hnonneg.trans hmul)] at hsmall
  exact (nearest_mono hmul).trans_lt hsmall

/-- A share of what is not negative has points if the whole has, none below zero and no more of
them. -/
theorem exists_scaledPoints_share (h : a.IsShortProduct b) (ha : 0 ≤ a.value) (hb : 0 ≤ b.value)
    (hone : b.value ≤ 1) {v : Value} (hv : v.IsExactly a.value) (hp : v.toPoints = .ok p) :
    ∃ n, scaledPoints a b = .ok n ∧ 0 ≤ n ∧ n ≤ p := by
  obtain ⟨hsmall, rfl⟩ := hv.toPoints_eq_ok_iff.mp hp
  have hmul : a.value * b.value ≤ a.value := mul_le_of_le_one_right ha hone
  have hnonneg : 0 ≤ a.value * b.value := mul_nonneg ha hb
  refine ⟨_, h.scaledPoints_eq_ok_iff.mpr ⟨?_, rfl⟩, nearestInt_nonneg hnonneg,
    nearestInt_mono hmul⟩
  rw [abs_of_nonneg hnonneg]
  rw [abs_of_nonneg ha] at hsmall
  exact (nearest_mono hmul).trans_lt hsmall

end IsShortProduct

end Decimal

/-! ## Shares of a weight -/

/-- The shares that seniorities and levels earn. -/
def Vocabulary.shares : List Decimal :=
  tiers.map Tier.share ++ urgencyLevels.map Prod.snd ++ engagementLevels.map Prod.snd

namespace Binary64

variable {x : Binary64} {d : Decimal}

/-- A share of the vocabulary has three digits at most. -/
theorem coefficient_le_of_mem_shares (hd : d ∈ Vocabulary.shares) :
    d.isFinite ∧ d.coefficient ≤ 100 := by
  have hshares : ∀ d ∈ Vocabulary.shares, d.isFinite ∧ d.coefficient ≤ 100 := by decide +kernel
  exact hshares d hd

theorem isShortProduct_shown (hx : x.isFinite) (hd : d ∈ Vocabulary.shares) :
    x.shown.IsShortProduct d := by
  obtain ⟨hfinite, hcoefficient⟩ := coefficient_le_of_mem_shares hd
  cases x with
  | infinite => cases hx
  | nan => cases hx
  | finite s m e =>
      obtain ⟨c, k, hshown, hc, -⟩ := exists_shown_finite s m e
      rw [hshown]
      exact Decimal.isShortProduct_of_le rfl hfinite hc hcoefficient

/-- A weight may as well be read from its text before a share of it is taken. -/
theorem exists_ofText_isShortProduct (hx : x.IsCanonical) :
    ∃ w, Decimal.ofText x.text = .ok w ∧ ∀ d ∈ Vocabulary.shares, w.IsShortProduct d ∧
      ∀ p, scaledPoints w d = .ok p ↔ scaledPoints x.shown d = .ok p := by
  obtain ⟨s, c, k, hread, hc, hvalue⟩ := exists_ofText_text hx
  have hfinite : x.isFinite := by
    cases x with
    | finite s m e => rfl
    | infinite => cases hx
    | nan => cases hx
  refine ⟨_, hread, fun d hd => ?_⟩
  obtain ⟨hd', hcoefficient⟩ := coefficient_le_of_mem_shares hd
  have hshort : (Decimal.finite s c k).IsShortProduct d :=
    Decimal.isShortProduct_of_le rfl hd' hc hcoefficient
  refine ⟨hshort, fun p => ?_⟩
  rw [hshort.scaledPoints_eq_ok_iff, (isShortProduct_shown hfinite hd).scaledPoints_eq_ok_iff, hvalue]

end Binary64

/-- The points of a short product are those of the exact product, rounded once with a half going
away from zero, and there are none only if they would have more than 28 digits.  Every product of a
finite number and a share of the vocabulary is short, whether the number is taken as it is shown or
as its text is read.  So the points of a share lie between zero and those of the whole, and they
grow with the whole and with the share. -/
theorem scaledPoints_shortProduct :
    (∀ a b : Decimal, a.IsShortProduct b → (scaledPoints a b).toOption =
      if ⌊|a.value * b.value| + 1 / 2⌋ < 10 ^ 28
      then some (SignType.sign (a.value * b.value) * ⌊|a.value * b.value| + 1 / 2⌋) else none) ∧
    (∀ x : Binary64, x.isFinite → ∀ d ∈ Vocabulary.shares, x.shown.IsShortProduct d) ∧
    (∀ x : Binary64, x.IsCanonical → ∃ w, Decimal.ofText x.text = .ok w ∧
      ∀ d ∈ Vocabulary.shares, w.IsShortProduct d ∧
        ∀ p, scaledPoints w d = .ok p ↔ scaledPoints x.shown d = .ok p) ∧
    (∀ a b : Decimal, a.IsShortProduct b → 0 ≤ a.value → 0 ≤ b.value → b.value ≤ 1 →
      ∀ v : Value, v.IsExactly a.value → ∀ p, v.toPoints = .ok p →
        ∃ n, scaledPoints a b = .ok n ∧ 0 ≤ n ∧ n ≤ p) ∧
    ∀ a b a' b' : Decimal, a.IsShortProduct b → a'.IsShortProduct b' → 0 ≤ a.value →
      0 ≤ b.value → a.value ≤ a'.value → b.value ≤ b'.value →
      ∀ p', scaledPoints a' b' = .ok p' → ∃ p, scaledPoints a b = .ok p ∧ p ≤ p' := by
  refine ⟨?_, ?_, ?_, ?_, ?_⟩
  · intro a b h
    rw [h.toOption_scaledPoints, Decimal.nearestInt_eq]
    exact if_congr Decimal.nearest_abs_lt_iff rfl rfl
  · exact fun x hx d hd => Binary64.isShortProduct_shown hx hd
  · exact fun x hx => Binary64.exists_ofText_isShortProduct hx
  · exact fun a b h ha hb hone v hv p hp => h.exists_scaledPoints_share ha hb hone hv hp
  · exact fun a b a' b' h h' ha hb hle hle' p' hp' =>
      h.exists_scaledPoints_le h' ha hb hle hle' hp'

/-- One more digit, and a product may be rounded twice: of just below one half, up to one. -/
example : scaledPoints (.finite false (5 * 10 ^ 28 - 1) (-29)) (.finite false 1 0) = .ok 1 := by
  decide +kernel

/-- A weight of thirty is worth twenty-six points to a vice president, who earns 25.5 of it, and no
more than that to somebody who earns sixty hundredths. -/
theorem scaledPoints_shortProduct_thirty :
    (Decimal.finite false 3 1).IsShortProduct (hundredths 85) ∧
      (Value.int 30).IsExactly (Decimal.finite false 3 1).value ∧
      (scaledPoints (.finite false 3 1) (hundredths 85)).toOption = some 26 ∧
      (∃ n, scaledPoints (.finite false 3 1) (hundredths 85) = .ok n ∧ 0 ≤ n ∧ n ≤ 30) ∧
      ∃ n, scaledPoints (.finite false 3 1) (hundredths 60) = .ok n ∧ n ≤ 26 := by
  have hshort : (Decimal.finite false 3 1).IsShortProduct (hundredths 85) := by decide +kernel
  have hshort' : (Decimal.finite false 3 1).IsShortProduct (hundredths 60) := by decide +kernel
  have hthirty : (Decimal.finite false 3 1).value = (30 : ℤ) := by norm_num [Decimal.value]
  have hshare : (hundredths 85).value = 85 / 100 := by norm_num [Decimal.value, hundredths]
  have hshare' : (hundredths 60).value = 60 / 100 := by norm_num [Decimal.value, hundredths]
  have hint : (Value.int 30).IsExactly (Decimal.finite false 3 1).value :=
    hthirty ▸ .int (lt_digitLimit_of_lt_precision (by decide))
  have hpoints : (Value.int 30).toPoints = .ok 30 :=
    Value.toPoints_int_eq_ok_iff.mpr ⟨by decide, rfl⟩
  obtain ⟨honce, -, -, hbetween, hmono⟩ := scaledPoints_shortProduct
  have htwentysix : (scaledPoints (.finite false 3 1) (hundredths 85)).toOption = some 26 := by
    rw [honce _ _ hshort, hthirty, hshare]
    norm_num
  have hok : scaledPoints (.finite false 3 1) (hundredths 85) = .ok 26 := by decide +kernel
  refine ⟨hshort, hint, htwentysix, ?_, ?_⟩
  · refine hbetween _ _ hshort ?_ ?_ ?_ _ hint 30 hpoints
    · rw [hthirty]; norm_num
    · rw [hshare]; norm_num
    · rw [hshare]; norm_num
  · refine hmono _ _ _ _ hshort' hshort ?_ ?_ le_rfl ?_ 26 hok
    · rw [hthirty]; norm_num
    · rw [hshare']; norm_num
    · rw [hshare, hshare']; norm_num

end Qualify
