import Mathlib.Algebra.Order.Ring.Cast
import Mathlib.Order.Compare
import Mathlib.Order.WithBot
import Qualify.Proofs.Number.Rounding

/-!
# Decimals in order

Finite decimals are compared as the rational numbers that they are, whatever their coefficients and
exponents (`Decimal.cmp?_finite`), and with the infinities at both ends these are one line
(`Decimal.cmp?_eq`).  Rounding to integers keeps decimals in order (`Decimal.toInteger_mono`).
-/

namespace Qualify

theorem compare_mul_right {a b c : ℚ} (hc : 0 < c) : compare (a * c) (b * c) = compare a b := by
  rw [← cmp_eq_compare, ← cmp_eq_compare, cmp_mul_pos_right hc]

theorem compare_neg (a b : ℚ) : compare (-a) (-b) = compare b a := by
  have hneg : StrictAnti fun q : ℚ => -q := fun _ _ => neg_lt_neg
  rw [← cmp_eq_compare, ← cmp_eq_compare]
  exact hneg.cmp_map_eq a b

theorem compare_natCast (a b : ℕ) : compare (a : ℚ) (b : ℚ) = compare a b := by
  rw [← cmp_eq_compare, ← cmp_eq_compare]
  exact Nat.strictMono_cast.cmp_map_eq a b

theorem abs_signed (s : Bool) {q : ℚ} (hq : 0 ≤ q) : |if s then -q else q| = q := by
  cases s with
  | false => exact abs_of_nonneg hq
  | true => exact (abs_neg q).trans (abs_of_nonneg hq)

namespace Decimal

/-- The rational number that a finite decimal is. -/
def value : Decimal → ℚ
  | .finite s c e => if s then -(c * 10 ^ e) else c * 10 ^ e
  | _ => 0

theorem value_positive (c : ℕ) (e : ℤ) : (finite false c e).value = c * 10 ^ e := rfl

theorem value_negative (c : ℕ) (e : ℤ) : (finite true c e).value = -(c * 10 ^ e) := rfl

/-! ## Comparison -/

/-- The shortcut for large gaps agrees with the comparison that it saves. -/
theorem compareShifted_eq (a gap b : ℕ) : compareShifted a gap b = compare (a * tenTo gap) b := by
  unfold compareShifted
  split
  · case isTrue ha => rw [ha, Nat.zero_mul]
  · case isFalse ha =>
      split
      · case isTrue hgap =>
          have hb : b < a * tenTo gap := by
            calc b < 2 ^ (b.log2 + 1) := Nat.lt_log2_self
              _ ≤ 2 ^ gap := Nat.pow_le_pow_right (by decide) hgap
              _ ≤ tenTo gap := Nat.pow_le_pow_left (by decide) gap
              _ ≤ a * tenTo gap := Nat.le_mul_of_pos_left _ (Nat.pos_of_ne_zero ha)
          exact (compare_gt_iff_gt.mpr hb).symm
      · rfl

/-- Over a common exponent, magnitudes are compared by their coefficients. -/
theorem compareShifted_sub (c c' : ℕ) {e e' : ℤ} (h : e' ≤ e) :
    compareShifted c (e - e').toNat c' = compare (c * 10 ^ e : ℚ) (c' * 10 ^ e') := by
  have hshift : (c : ℚ) * 10 ^ e = ((c * tenTo (e - e').toNat : ℕ) : ℚ) * 10 ^ e' := by
    have hexponent : e = ((e - e').toNat : ℤ) + e' := by omega
    conv_lhs => rw [hexponent, zpow_add₀ (by norm_num), zpow_natCast]
    rw [Nat.cast_mul, cast_tenTo, mul_assoc]
  rw [compareShifted_eq, hshift, compare_mul_right (by positivity), compare_natCast]

theorem compareMagnitude_eq (c c' : ℕ) (e e' : ℤ) :
    compareMagnitude c e c' e' = compare (c * 10 ^ e : ℚ) (c' * 10 ^ e') := by
  unfold compareMagnitude
  split
  · case isTrue h => exact compareShifted_sub c c' h
  · case isFalse h => rw [compareShifted_sub c' c (by omega), ← Std.OrientedOrd.eq_swap]

/-- Finite decimals are compared by their values. -/
theorem cmp?_finite (s s' : Bool) (c c' : ℕ) (e e' : ℤ) :
    (finite s c e).cmp? (finite s' c' e') =
      some (compare (finite s c e).value (finite s' c' e').value) := by
  have hpos : (0 : ℚ) < 10 ^ e := by positivity
  have hpos' : (0 : ℚ) < 10 ^ e' := by positivity
  unfold cmp?
  dsimp only
  congr 1
  by_cases hzero : c = 0 ∧ c' = 0
  · rw [if_pos hzero, hzero.1, hzero.2]
    symm
    rw [compare_eq_iff_eq]
    simp [value]
  · rw [if_neg hzero]
    have hsum : (0 : ℚ) < c * 10 ^ e + c' * 10 ^ e' := by
      rcases not_and_or.mp hzero with hc | hc
      · have hc : (0 : ℚ) < c := Nat.cast_pos.mpr (Nat.pos_of_ne_zero hc)
        positivity
      · have hc : (0 : ℚ) < c' := Nat.cast_pos.mpr (Nat.pos_of_ne_zero hc)
        positivity
    cases s with
    | false =>
        cases s' with
        | false => exact compareMagnitude_eq c c' e e'
        | true => exact (compare_gt_iff_gt.mpr (neg_lt_iff_pos_add.mpr hsum)).symm
    | true =>
        cases s' with
        | false => exact (compare_lt_iff_lt.mpr (neg_lt_iff_pos_add'.mpr hsum)).symm
        | true => exact (compareMagnitude_eq c' c e' e).trans (compare_neg _ _).symm

/-! ### Infinities -/

/-- Where a decimal stands on the line from one infinity to the other. -/
def place : Decimal → WithBot (WithTop ℚ)
  | .infinite true => ⊥
  | .infinite false => ((⊤ : WithTop ℚ) : WithBot (WithTop ℚ))
  | d => ((d.value : WithTop ℚ) : WithBot (WithTop ℚ))

theorem compare_place_finite (p q : ℚ) :
    compare ((p : WithTop ℚ) : WithBot (WithTop ℚ)) ((q : WithTop ℚ) : WithBot (WithTop ℚ)) =
      compare p q := by
  have hmono : StrictMono fun q : ℚ => ((q : WithTop ℚ) : WithBot (WithTop ℚ)) :=
    WithBot.coe_strictMono.comp WithTop.coe_strictMono
  rw [← cmp_eq_compare, ← cmp_eq_compare]
  exact hmono.cmp_map_eq p q

section

variable {x y z : Decimal}

/-- Decimals that are numbers are compared by their places. -/
theorem cmp?_eq (hx : x.isNaN = false) (hy : y.isNaN = false) :
    x.cmp? y = some (compare x.place y.place) := by
  have hbot : ∀ q : WithTop ℚ, (⊥ : WithBot (WithTop ℚ)) < q := WithBot.bot_lt_coe
  have htop : ∀ q : ℚ, ((q : WithTop ℚ) : WithBot (WithTop ℚ)) < (⊤ : WithTop ℚ) :=
    fun q => WithBot.coe_lt_coe.mpr (WithTop.coe_lt_top q)
  cases x with
  | nan => cases hx
  | infinite s =>
      cases y with
      | nan => cases hy
      | infinite t =>
          cases s with
          | false =>
              cases t with
              | false => exact congrArg some (compare_eq_iff_eq.mpr rfl).symm
              | true => exact congrArg some (compare_gt_iff_gt.mpr (hbot _)).symm
          | true =>
              cases t with
              | false => exact congrArg some (compare_lt_iff_lt.mpr (hbot _)).symm
              | true => exact congrArg some (compare_eq_iff_eq.mpr rfl).symm
      | finite t c e =>
          cases s with
          | false => exact congrArg some (compare_gt_iff_gt.mpr (htop _)).symm
          | true => exact congrArg some (compare_lt_iff_lt.mpr (hbot _)).symm
  | finite s c e =>
      cases y with
      | nan => cases hy
      | infinite t =>
          cases t with
          | false => exact congrArg some (compare_lt_iff_lt.mpr (htop _)).symm
          | true => exact congrArg some (compare_gt_iff_gt.mpr (hbot _)).symm
      | finite t c' e' =>
          exact (cmp?_finite s t c c' e e').trans (congrArg some (compare_place_finite _ _).symm)

theorem isNaN_of_cmp? {o : Ordering} (h : x.cmp? y = some o) :
    x.isNaN = false ∧ y.isNaN = false := by
  cases x with
  | nan => cases h
  | infinite | finite =>
      cases y with
      | nan => cases h
      | infinite | finite => exact ⟨rfl, rfl⟩

theorem isSignaling_of_isNaN (h : x.isNaN = false) : x.isSignaling = false := by
  cases x with
  | nan => cases h
  | infinite | finite => rfl

/-- Decimals are equal when they are numbers in one place. -/
theorem cmp?_eq_eq_iff :
    x.cmp? y = some .eq ↔ x.isNaN = false ∧ y.isNaN = false ∧ x.place = y.place := by
  constructor
  · intro h
    obtain ⟨hx, hy⟩ := isNaN_of_cmp? h
    rw [cmp?_eq hx hy, Option.some_inj, compare_eq_iff_eq] at h
    exact ⟨hx, hy, h⟩
  · rintro ⟨hx, hy, h⟩
    rw [cmp?_eq hx hy, h, compare_eq_iff_eq.mpr rfl]

theorem cmp?_eq_symm (h : x.cmp? y = some .eq) : y.cmp? x = some .eq := by
  obtain ⟨hx, hy, hplace⟩ := cmp?_eq_eq_iff.mp h
  exact cmp?_eq_eq_iff.mpr ⟨hy, hx, hplace.symm⟩

theorem cmp?_eq_trans (h : x.cmp? y = some .eq) (h' : y.cmp? z = some .eq) :
    x.cmp? z = some .eq := by
  obtain ⟨hx, -, hplace⟩ := cmp?_eq_eq_iff.mp h
  obtain ⟨-, hz, hplace'⟩ := cmp?_eq_eq_iff.mp h'
  exact cmp?_eq_eq_iff.mpr ⟨hx, hz, hplace.trans hplace'⟩

end

theorem value_ofInt (n : ℤ) : (ofInt n).value = n := by
  unfold ofInt value
  dsimp only
  rw [zpow_zero, mul_one]
  rcases lt_or_ge n 0 with h | h
  · rw [if_pos (decide_eq_true h), Nat.cast_natAbs, abs_of_neg h]
    push_cast
    ring
  · rw [if_neg (by simpa using h), Nat.cast_natAbs, abs_of_nonneg h]

theorem place_ofInt_le_iff {m n : ℤ} : (ofInt m).place ≤ (ofInt n).place ↔ m ≤ n := by
  have hplace : ∀ k : ℤ, (ofInt k).place = (((k : ℚ) : WithTop ℚ) : WithBot (WithTop ℚ)) :=
    fun k => congrArg (fun q : ℚ => ((q : WithTop ℚ) : WithBot (WithTop ℚ))) (value_ofInt k)
  rw [hplace, hplace, WithBot.coe_le_coe, WithTop.coe_le_coe, Int.cast_le]

/-! ## Rounding -/

/-- The integer nearest to a rational number, a half going away from zero. -/
def nearestInt (q : ℚ) : ℤ := if q < 0 then -(nearest (-q) : ℤ) else nearest q

theorem nearestInt_mono {p q : ℚ} (h : p ≤ q) : nearestInt p ≤ nearestInt q := by
  unfold nearestInt
  rcases lt_or_ge p 0 with hp | hp
  · rw [if_pos hp]
    rcases lt_or_ge q 0 with hq | hq
    · rw [if_pos hq, neg_le_neg_iff, Nat.cast_le]
      exact nearest_mono (neg_le_neg h)
    · rw [if_neg (not_lt.mpr hq)]
      omega
  · rw [if_neg (not_lt.mpr hp), if_neg (not_lt.mpr (hp.trans h)), Nat.cast_le]
    exact nearest_mono h

theorem nearestInt_nonneg {q : ℚ} (h : 0 ≤ q) : 0 ≤ nearestInt q := by
  rw [nearestInt, if_neg (not_lt.mpr h)]
  exact Nat.cast_nonneg _

theorem abs_nearestInt (q : ℚ) : |nearestInt q| = nearest |q| := by
  unfold nearestInt
  rcases lt_or_ge q 0 with h | h
  · rw [if_pos h, abs_neg, Nat.abs_cast, abs_of_neg h]
  · rw [if_neg (not_lt.mpr h), Nat.abs_cast, abs_of_nonneg h]

variable {d d' : Decimal} {p p' : ℤ}

/-- A decimal is rounded by its value. -/
theorem eq_nearestInt (h : d.toInteger = .ok p) : p = nearestInt d.value := by
  cases d with
  | nan => cases h
  | infinite s => cases h
  | finite s c e =>
      have hvalue : (0 : ℚ) ≤ c * 10 ^ e := by positivity
      rw [toInteger_finite] at h
      split at h
      · obtain rfl := Except.ok.inj h
        cases s with
        | false =>
            rw [value_positive, nearestInt, if_neg (not_lt.mpr hvalue)]
            rfl
        | true =>
            rw [value_negative, nearestInt]
            rcases hvalue.eq_or_lt with hzero | hpos
            · have hnone : nearest (0 : ℚ) = 0 := by exact_mod_cast nearest_natCast 0
              simp [← hzero, hnone]
            · rw [if_pos (neg_neg_of_pos hpos), neg_neg]
              rfl
      · cases h

/-- Rounding keeps decimals in order. -/
theorem toInteger_mono (h : d.value ≤ d'.value) (hp : d.toInteger = .ok p)
    (hp' : d'.toInteger = .ok p') : p ≤ p' := by
  rw [eq_nearestInt hp, eq_nearestInt hp']
  exact nearestInt_mono h

end Decimal

end Qualify
