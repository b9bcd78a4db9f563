import Mathlib.Data.Sign.Basic
import Qualify.Proofs.Number.Layout
import Qualify.Proofs.Points.Range

/-!
# The points of an exact number

An integer, a finite decimal and the decimal that a finite number is shown as are rational numbers,
and their points depend on these alone: the nearest integer, a half going away from zero, as long as
it has at most 28 digits (`Value.toPoints_exact`).  The way through the text of the value comes to
the same, since every such text reads back as that rational number.
-/

namespace Qualify

namespace Decimal

/-! ## The nearest integer -/

theorem cast_nearest_abs (q : ℚ) : (nearest |q| : ℤ) = ⌊|q| + 1 / 2⌋ :=
  Int.natCast_floor_eq_floor (by positivity)

theorem nearest_abs_lt_iff {q : ℚ} : nearest |q| < tenTo precision ↔ ⌊|q| + 1 / 2⌋ < 10 ^ 28 := by
  rw [← cast_nearest_abs]
  exact_mod_cast Iff.rfl

theorem nearestInt_eq (q : ℚ) : nearestInt q = SignType.sign q * ⌊|q| + 1 / 2⌋ := by
  rw [← cast_nearest_abs, nearestInt]
  rcases lt_trichotomy q 0 with h | rfl | h
  · rw [if_pos h, sign_neg h, abs_of_neg h]
    simp
  · have hnone : nearest (0 : ℚ) = 0 := by exact_mod_cast nearest_natCast 0
    simp [hnone]
  · rw [if_neg (not_lt.mpr h.le), sign_pos h, abs_of_pos h]
    simp

theorem nearestInt_neg (q : ℚ) : nearestInt (-q) = -nearestInt q := by
  rw [nearestInt_eq, nearestInt_eq, Left.sign_neg, abs_neg]
  simp

theorem nearestInt_of_nonneg {q : ℚ} (h : 0 ≤ q) : nearestInt q = nearest q :=
  if_neg (not_lt.mpr h)

theorem nearestInt_intCast (n : ℤ) : nearestInt n = n := by
  have hnat : ∀ m : ℕ, nearestInt m = m := fun m => by
    rw [nearestInt_of_nonneg (Nat.cast_nonneg m), nearest_natCast]
  rcases n.eq_nat_or_neg with ⟨m, rfl | rfl⟩
  · exact_mod_cast hnat m
  · rw [Int.cast_neg, nearestInt_neg, Int.cast_natCast, hnat]

theorem abs_nearestInt_sub_le (q : ℚ) : |nearestInt q - q| ≤ 1 / 2 := by
  have hnonneg : ∀ r : ℚ, 0 ≤ r → |nearestInt r - r| ≤ 1 / 2 := by
    intro r hr
    have hle : (nearest r : ℚ) ≤ r + 1 / 2 := Nat.floor_le (by positivity)
    have hlt : r + 1 / 2 < nearest r + 1 := Nat.lt_floor_add_one _
    rw [nearestInt_of_nonneg hr, Int.cast_natCast, abs_le]
    constructor <;> linarith
  rcases le_total 0 q with h | h
  · exact hnonneg q h
  · have hneg := hnonneg (-q) (neg_nonneg.mpr h)
    rwa [nearestInt_neg, Int.cast_neg, neg_sub_neg, abs_sub_comm] at hneg

/-- A finite decimal becomes the integer nearest to its value if that has at most 28 digits. -/
theorem toInteger_eq {d : Decimal} (h : d.isFinite) :
    d.toInteger = if nearest |d.value| < tenTo precision then .ok (nearestInt d.value)
      else .error .invalidOperation := by
  cases d with
  | infinite => cases h
  | nan => cases h
  | finite s c e =>
      have habs : |(finite s c e).value| = c * 10 ^ e := abs_signed s (by positivity)
      have hread := toInteger_finite s c e
      rw [habs]
      split at hread
      · case isTrue hlt => rw [if_pos hlt, hread, eq_nearestInt hread]
      · case isFalse hlt => rw [if_neg hlt, hread]

theorem lift_toInteger_eq {d : Decimal} (h : d.isFinite) :
    ArithmeticFault.lift d.toInteger =
      if nearest |d.value| < tenTo precision then .ok (nearestInt d.value)
      else .error (.arithmetic .invalidOperation) := by
  rw [toInteger_eq h]
  split
  · rfl
  · rfl

theorem exists_lift_toInteger_eq_error {d : Decimal} (h : ¬ d.isFinite) :
    ∃ f, ArithmeticFault.lift d.toInteger = .error f := by
  cases d with
  | finite => exact absurd rfl h
  | infinite | nan => exact ⟨_, rfl⟩

end Decimal

namespace Value

variable {v w : Value} {q r : ℚ}

/-- The rational number that a value is: an integer that is short enough to be written, a finite
decimal, or the decimal that a finite number is shown as. -/
inductive IsExactly : Value → ℚ → Prop
  | int {n : ℤ} (h : n.natAbs < tenTo digitLimit) : IsExactly (.int n) n
  | decimal {d : Decimal} (h : d.isFinite) : IsExactly (.decimal d) d.value
  | float {x : Binary64} (h : x.isFinite) : IsExactly (.float x) x.shown.value

/-- A decimal or a number has the form that its type gives it. -/
def IsInForm : Value → Prop
  | .decimal (.finite _ c e) => Decimal.writable c e
  | .float x => x.IsCanonical
  | _ => True

theorem IsExactly.exists_asDecimal (h : v.IsExactly q) :
    ∃ d, v.asDecimal = .ok d ∧ d.isFinite ∧ d.value = q := by
  cases h with
  | @int n h => exact ⟨.ofInt n, (asDecimal_int n).trans (if_pos h), rfl, Decimal.value_ofInt n⟩
  | @decimal d h => exact ⟨d, rfl, h, rfl⟩
  | @float x h =>
      refine ⟨x.shown, rfl, ?_, rfl⟩
      cases x with
      | infinite => cases h
      | nan => cases h
      | finite s m e =>
          obtain ⟨c, k, hshown, -⟩ := Binary64.exists_shown_finite s m e
          rw [hshown]
          rfl

/-- The number with the other sign is exact as well. -/
theorem IsExactly.exists_neg (h : v.IsExactly q) : ∃ w, IsExactly w (-q) := by
  cases h with
  | @int n h =>
      have hneg : (-n).natAbs < tenTo digitLimit := by rwa [Int.natAbs_neg]
      have hexact := IsExactly.int hneg
      rw [Int.cast_neg] at hexact
      exact ⟨_, hexact⟩
  | @decimal d h =>
      cases d with
      | infinite => cases h
      | nan => cases h
      | finite s c e =>
          have hneg : (Decimal.finite (!s) c e).value = -(Decimal.finite s c e).value := by
            cases s with
            | false => rfl
            | true => exact (neg_neg _).symm
          exact ⟨.decimal (.finite (!s) c e), hneg ▸ .decimal rfl⟩
  | @float x h =>
      cases x with
      | infinite => cases h
      | nan => cases h
      | finite s m e =>
          have hneg : (Binary64.finite (!s) m e).shown.value =
              -(Binary64.finite s m e).shown.value := by
            cases s with
            | false =>
                rw [Bool.not_false, Binary64.value_shown_negative, Binary64.value_shown_positive]
            | true =>
                rw [Bool.not_true, Binary64.value_shown_negative, Binary64.value_shown_positive,
                  neg_neg]
          exact ⟨.float (.finite (!s) m e), hneg ▸ .float rfl⟩

theorem IsExactly.toPoints_eq (h : v.IsExactly q) :
    v.toPoints = if nearest |q| < tenTo Decimal.precision then .ok (Decimal.nearestInt q)
      else .error (.arithmetic .invalidOperation) := by
  obtain ⟨d, hd, hfinite, rfl⟩ := h.exists_asDecimal
  rw [toPoints, hd]
  exact Decimal.lift_toInteger_eq hfinite

theorem IsExactly.toPoints_eq_ok_iff {p : ℤ} (h : v.IsExactly q) :
    v.toPoints = .ok p ↔ nearest |q| < tenTo Decimal.precision ∧ Decimal.nearestInt q = p := by
  rw [h.toPoints_eq]
  split
  · case isTrue hlt => rw [Except.ok.injEq, and_iff_right hlt]
  · case isFalse hlt => exact iff_of_false nofun fun hp => hlt hp.1

/-- The text of an exact number reads back as that number. -/
theorem IsExactly.exists_ofText (h : v.IsExactly q) (hform : v.IsInForm) :
    ∃ text d, v.toText = .ok text ∧ Decimal.ofText text = .ok d ∧ d.isFinite ∧ d.value = q := by
  cases h with
  | @int n h =>
      have htext : (Value.int n).toText = integerText n := rfl
      refine ⟨toString n, .ofInt n, ?_, Decimal.ofText_toString h, rfl, Decimal.value_ofInt n⟩
      rw [htext, integerText, if_pos h]
  | @decimal d h =>
      cases d with
      | infinite => cases h
      | nan => cases h
      | finite s c e => exact ⟨_, _, rfl, Decimal.ofText_text hform, rfl, rfl⟩
  | @float x h =>
      obtain ⟨s, c, k, hread, -, hvalue⟩ := Binary64.exists_ofText_text hform
      exact ⟨_, _, rfl, hread, rfl, hvalue⟩

/-- The points of an exact number are the nearest integer, a half going away from zero, if that has
at most 28 digits; else there are none, and neither are there for what is no finite number.  The
text of the number reads back as a decimal that comes to the same.  So points change their sign with
the number, are in the order of the numbers, leave integers as they are and are off by one half at
most. -/
theorem toPoints_exact :
    (∀ v q, IsExactly v q → v.toPoints =
      if ⌊|q| + 1 / 2⌋ < 10 ^ 28 then .ok (SignType.sign q * ⌊|q| + 1 / 2⌋)
      else .error (.arithmetic .invalidOperation)) ∧
    (∀ x : Binary64, ¬ x.isFinite → ∃ f, (Value.float x).toPoints = .error f) ∧
    (∀ d : Decimal, ¬ d.isFinite → ∃ f, (Value.decimal d).toPoints = .error f) ∧
    (∀ v q, IsExactly v q → v.IsInForm → ∃ text d, v.toText = .ok text ∧
      Decimal.ofText text = .ok d ∧ d.value = q ∧
      v.toPoints = ArithmeticFault.lift d.toInteger) ∧
    (∀ v q, IsExactly v q → (∃ w, IsExactly w (-q)) ∧
      ∀ w, IsExactly w (-q) → w.toPoints = (fun p => -p) <$> v.toPoints) ∧
    (∀ v w q r p p', IsExactly v q → IsExactly w r → q ≤ r → v.toPoints = .ok p →
      w.toPoints = .ok p' → p ≤ p') ∧
    (∀ v (n : ℤ), IsExactly v n → |n| < 10 ^ 28 → v.toPoints = .ok n) ∧
    ∀ v q p, IsExactly v q → v.toPoints = .ok p → |p - q| ≤ 1 / 2 := by
  refine ⟨?_, ?_, ?_, ?_, ?_, ?_, ?_, ?_⟩
  · intro v q h
    rw [h.toPoints_eq, Decimal.nearestInt_eq]
    exact if_congr Decimal.nearest_abs_lt_iff rfl rfl
  · intro x hx
    refine Decimal.exists_lift_toInteger_eq_error (d := x.shown) ?_
    cases x with
    | finite => exact absurd rfl hx
    | infinite | nan => exact Bool.false_ne_true
  · intro d hd
    exact Decimal.exists_lift_toInteger_eq_error hd
  · intro v q h hform
    obtain ⟨text, d, htext, hread, hfinite, rfl⟩ := h.exists_ofText hform
    refine ⟨text, d, htext, hread, rfl, ?_⟩
    rw [h.toPoints_eq, Decimal.lift_toInteger_eq hfinite]
  · refine fun v q hv => ⟨hv.exists_neg, fun w hw => ?_⟩
    rw [hv.toPoints_eq, hw.toPoints_eq, abs_neg, Decimal.nearestInt_neg]
    split
    · rfl
    · rfl
  · intro v w q r p p' hv hw hle hp hp'
    obtain ⟨-, rfl⟩ := hv.toPoints_eq_ok_iff.mp hp
    obtain ⟨-, rfl⟩ := hw.toPoints_eq_ok_iff.mp hp'
    exact Decimal.nearestInt_mono hle
  · intro v n h hn
    refine h.toPoints_eq_ok_iff.mpr ⟨?_, Decimal.nearestInt_intCast n⟩
    rw [← Int.cast_abs, Int.abs_eq_natAbs, Int.cast_natCast, nearest_natCast]
    rw [Int.abs_eq_natAbs] at hn
    exact_mod_cast hn
  · intro v q p h hp
    obtain ⟨-, rfl⟩ := h.toPoints_eq_ok_iff.mp hp
    exact Decimal.abs_nearestInt_sub_le q

/-- The carry counts: 28 nines and a half would be an integer of 29 digits. -/
example : (Value.decimal (.finite false (10 ^ 29 - 5) (-1))).toPoints =
    .error (.arithmetic .invalidOperation) := by
  decide +kernel

/-- Two and a half as a decimal, and as a binary number with the other sign. -/
def twoAndHalf : Value := .decimal (.finite false 25 (-1))

def minusTwoAndHalf : Value := .float (.finite true 5629499534213120 (-51))

/-- A half goes away from zero on either side. -/
theorem toPoints_exact_half :
    IsExactly twoAndHalf (5 / 2) ∧ twoAndHalf.IsInForm ∧ IsExactly minusTwoAndHalf (-(5 / 2)) ∧
      twoAndHalf.toPoints = .ok 3 ∧ minusTwoAndHalf.toPoints = .ok (-3) ∧
      ∃ text d, twoAndHalf.toText = .ok text ∧ Decimal.ofText text = .ok d ∧ d.value = 5 / 2 := by
  have hhalf : IsExactly twoAndHalf (5 / 2) := by
    have hvalue : (Decimal.finite false 25 (-1)).value = 5 / 2 := by norm_num [Decimal.value]
    exact hvalue ▸ .decimal rfl
  have hnegative : IsExactly minusTwoAndHalf (-(5 / 2)) := by
    have hshown : (Binary64.finite true 5629499534213120 (-51)).shown = .finite true 25 (-1) := by
      decide +kernel
    have hvalue : (Binary64.finite true 5629499534213120 (-51)).shown.value = -(5 / 2) := by
      rw [hshown]
      norm_num [Decimal.value]
    exact hvalue ▸ .float rfl
  have hform : Decimal.writable 25 (-1) := by decide
  obtain ⟨hpoints, -, -, htext, hodd, -⟩ := toPoints_exact
  have hthree : twoAndHalf.toPoints = .ok 3 := by
    rw [hpoints twoAndHalf _ hhalf]
    norm_num
  obtain ⟨text, d, htext, hread, hvalue, -⟩ := htext twoAndHalf _ hhalf hform
  refine ⟨hhalf, hform, hnegative, hthree, ?_, text, d, htext, hread, hvalue⟩
  rw [(hodd twoAndHalf _ hhalf).2 _ hnegative, hthree]
  rfl

end Value

end Qualify
