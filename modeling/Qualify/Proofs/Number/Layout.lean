import Qualify.Proofs.Number.Numeral
import Qualify.Proofs.Number.Shown

/-!
# Texts of binary64 numbers read back

The text of a number is the decimal that it is shown as, laid out: the digits without the zeros at
their end, a point among them or zeros up to it, or an exponent behind them.  Each of these is a
numeral of the same value (`Binary64.isNumeral_layout`), with the same coefficient or, where a zero
has to stand behind the point, with a few digits more.  So the text of every number of the format
reads back as a short decimal of the value shown (`Binary64.exists_ofText_text`).
-/

namespace Qualify.Binary64

open Decimal

/-! ## The digits of a number -/

/-- A row of digits is what stays of it without the zeros at its end, and these zeros. -/
theorem stripZeros_append (cs : List Char) :
    (stripZeros cs).1 ++ List.replicate (stripZeros cs).2 '0' = cs := by
  have hsplit : cs.rdropWhile (· == '0') ++ cs.rtakeWhile (· == '0') = cs :=
    List.rdropWhile_append_rtakeWhile
  have hcount : (cs.reverse.takeWhile (· == '0')).length = (cs.rtakeWhile (· == '0')).length :=
    (List.length_reverse).symm
  have hall : ∀ c ∈ cs.rtakeWhile (· == '0'), (c == '0') = true := fun _ => List.mem_rtakeWhile_imp
  have hzeros : cs.rtakeWhile (· == '0') =
      List.replicate (cs.rtakeWhile (· == '0')).length '0' :=
    List.eq_replicate_of_mem fun c hc => beq_iff_eq.mp (hall c hc)
  generalize cs.rdropWhile (· == '0') = ds at *
  generalize cs.rtakeWhile (· == '0') = zeros at *
  subst hsplit
  unfold stripZeros
  dsimp only
  rw [hcount, ← hzeros, List.length_append, Nat.add_sub_cancel, List.take_left]

/-! ## The point among the digits -/

/-- An exponent has two digits at least. -/
theorem exponentDigits (n : ℕ) :
    let ds := (if (toString n).length < 2 then "0" ++ toString n else toString n).toList
    AreDigits ds ∧ ds ≠ [] ∧ Nat.ofDigitChars 10 ds 0 = n := by
  have hrepr : (toString n).toList = Nat.toDigits 10 n := Nat.toList_repr
  dsimp only
  split
  · rw [String.toList_append, hrepr]
    refine ⟨(areDigits_replicate_zero 1).append (areDigits_toDigits n), List.cons_ne_nil _ _, ?_⟩
    exact (ofDigitChars_zeros_append 1 _).trans Nat.ofDigitChars_ten_toDigits
  · rw [hrepr]
    exact ⟨areDigits_toDigits n, Nat.toDigits_ne_nil, Nat.ofDigitChars_ten_toDigits⟩

section Layout

variable {ds : List Char} (hds : AreDigits ds)

include hds

/-- All of the digits stand behind the point. -/
theorem isNumeral_behind (zeros : ℕ) :
    IsNumeral ('0' :: '.' :: (List.replicate zeros '0' ++ ds)) (Nat.ofDigitChars 10 ds 0)
      (-(zeros + ds.length : ℕ)) := by
  have hzero : AreDigits ['0'] := areDigits_replicate_zero 1
  have h := (IsMantissa.pointed hzero (List.cons_ne_nil _ _)
    ((areDigits_replicate_zero zeros).append hds)).isNumeral
  rwa [List.length_append, List.length_replicate, Nat.ofDigitChars_append,
    show Nat.ofDigitChars 10 ['0'] 0 = 0 from rfl, ofDigitChars_zeros_append] at h

/-- All of the digits stand before the point, and a zero stands behind it. -/
theorem isNumeral_before (hne : ds ≠ []) (zeros : ℕ) :
    IsNumeral (ds ++ List.replicate zeros '0' ++ ['.', '0'])
      (Nat.ofDigitChars 10 ds 0 * 10 ^ (zeros + 1)) (-1) := by
  have hdigits := hds.append (areDigits_replicate_zero zeros)
  have h := (IsMantissa.pointed hdigits (List.append_ne_nil_of_left_ne_nil hne _)
    (areDigits_replicate_zero 1)).isNumeral
  rw [Nat.ofDigitChars_append, Nat.ofDigitChars_append, Nat.ofDigitChars_replicate_zero,
    Nat.ofDigitChars_replicate_zero] at h
  rwa [Nat.mul_comm, pow_succ', mul_assoc]

/-- Far from the point there is an exponent behind the digits. -/
theorem isNumeral_layout_far (hne : ds ≠ []) {place : ℤ} (hfar : ¬(-4 < place ∧ place ≤ 16)) :
    IsNumeral (layout ds place).toList (Nat.ofDigitChars 10 ds 0) (place - ds.length) := by
  obtain ⟨hdigits, hfilled, hvalue⟩ := exponentDigits (place - 1).natAbs
  have hexponent := isExponent_cons (.inl rfl) hdigits hfilled hvalue
  have htail : ∀ m : String, (m ++ "e" ++ (if place - 1 < 0 then "-" else "+")).toList =
      m.toList ++ ['e', if place - 1 < 0 then '-' else '+'] := by
    intro m
    split <;> simp
  unfold layout
  rw [if_neg hfar]
  dsimp only
  rw [String.toList_append, htail, String.toList_ofList, List.append_assoc]
  rcases ds with - | ⟨d, - | ⟨d', ds⟩⟩
  · exact absurd rfl hne
  · have h := IsNumeral.mk (.whole hds hne) hexponent
    rwa [Nat.cast_zero, sub_zero] at h
  · have h := IsNumeral.mk (isMantissa_take_drop hds hne Nat.one_pos) hexponent
    have hplace : place - 1 - ((d :: d' :: ds).length - 1 : ℕ) =
        place - (d :: d' :: ds).length := by
      simp only [List.length_cons]
      omega
    rwa [hplace] at h

/-- Digits with a point at a place read as the digits without, shifted back; only if there are
zeros to fill in before the point, a further zero behind it counts as a digit. -/
theorem isNumeral_layout (hne : ds ≠ []) (place : ℤ) :
    IsNumeral (layout ds place).toList (Nat.ofDigitChars 10 ds 0) (place - ds.length) ∨
    ((ds.length : ℤ) ≤ place ∧ place ≤ 16 ∧ IsNumeral (layout ds place).toList
      (Nat.ofDigitChars 10 ds 0 * 10 ^ (place.toNat - ds.length + 1)) (-1)) := by
  by_cases hnear : -4 < place ∧ place ≤ 16
  · unfold layout
    rw [if_pos hnear]
    split
    · case isTrue hplace =>
        left
        have h := isNumeral_behind hds place.natAbs
        rw [show -((place.natAbs + ds.length : ℕ) : ℤ) = place - ds.length by omega] at h
        rwa [String.toList_ofList]
    · case isFalse hplace =>
        dsimp only
        split
        · case isTrue hlength =>
            right
            refine ⟨by omega, hnear.2, ?_⟩
            rw [String.toList_ofList]
            exact isNumeral_before hds hne _
        · case isFalse hlength =>
            left
            have h := (isMantissa_take_drop hds hne (show 0 < place.toNat by omega)).isNumeral
            rw [show -((ds.length - place.toNat : ℕ) : ℤ) = place - ds.length by omega] at h
            rwa [String.toList_ofList]
  · exact .inl (isNumeral_layout_far hds hne hnear)

end Layout

/-! ## The text of a number -/

/-- The digits of a number other than zero without the zeros at their end, and how many of these
there are. -/
theorem stripZeros_toString {c : ℕ} (hc : c ≠ 0) :
    AreDigits (stripZeros (toString c).toList).1 ∧ (stripZeros (toString c).toList).1 ≠ [] ∧
      Nat.ofDigitChars 10 (stripZeros (toString c).toList).1 0 *
        10 ^ (stripZeros (toString c).toList).2 = c ∧
      (stripZeros (toString c).toList).1.length + (stripZeros (toString c).toList).2 =
        digitCount c := by
  have hlist : (toString c).toList = Nat.toDigits 10 c := Nat.toList_repr
  rw [hlist]
  have hsplit := stripZeros_append (Nat.toDigits 10 c)
  have hvalue : Nat.ofDigitChars 10 (Nat.toDigits 10 c) 0 = c := Nat.ofDigitChars_ten_toDigits
  have hdigits := areDigits_toDigits c
  have hlength : (Nat.toDigits 10 c).length = digitCount c := rfl
  generalize Nat.toDigits 10 c = cs at *
  generalize (stripZeros cs).1 = ds at *
  generalize (stripZeros cs).2 = zeros at *
  rw [← hsplit, Nat.ofDigitChars_append, Nat.ofDigitChars_replicate_zero, Nat.mul_comm] at hvalue
  refine ⟨fun ch hch => hdigits ch (hsplit ▸ List.mem_append_left _ hch), ?_, hvalue, ?_⟩
  · rintro rfl
    exact hc (hvalue.symm.trans (Nat.zero_mul _))
  · rw [← hlength, ← hsplit, List.length_append, List.length_replicate]

/-- A short decimal is laid out as a numeral that denotes it, and not a longer one unless its
digits all stand before the point. -/
theorem exists_isNumeral_layout {c : ℕ} (hc : c ≠ 0) (hshort : c ≤ 10 ^ 18) (k : ℤ) :
    ∃ c' k', IsNumeral (layout (stripZeros (toString c).toList).1
        (k + (stripZeros (toString c).toList).2 + (stripZeros (toString c).toList).1.length)).toList
        c' k' ∧
      c' ≤ 10 ^ 18 ∧ (c' : ℚ) * 10 ^ k' = c * 10 ^ k ∧ min k (-1) ≤ k' ∧ k' ≤ max (k + 19) (-1) := by
  obtain ⟨hdigits, hne, hvalue, hlength⟩ := stripZeros_toString hc
  have hcount : digitCount c ≤ 19 := digitCount_le_of_lt (by decide) (hshort.trans_lt (by decide))
  generalize (stripZeros (toString c).toList).1 = ds at *
  generalize (stripZeros (toString c).toList).2 = zeros at *
  rcases isNumeral_layout hdigits hne (k + zeros + ds.length) with h | ⟨hle, hplace, h⟩
  · rw [add_sub_cancel_right] at h
    refine ⟨_, _, h, ?_, ?_, ?_, ?_⟩
    · exact (Nat.le_mul_of_pos_right _ (Nat.pow_pos (by decide))).trans (hvalue.trans_le hshort)
    · rw [← hvalue, zpow_add₀ (by norm_num), zpow_natCast]
      push_cast
      ring
    · omega
    · omega
  · obtain ⟨shift, hshift⟩ : ∃ shift : ℕ, k + zeros = shift := Int.eq_ofNat_of_zero_le (by omega)
    rw [hshift, show ((shift : ℤ) + ds.length).toNat - ds.length + 1 = shift + 1 by omega] at h
    rw [hshift]
    refine ⟨_, _, h, ?_, ?_, ?_, ?_⟩
    · have hlt : Nat.ofDigitChars 10 ds 0 < 10 ^ ds.length := by
        refine Nat.lt_of_mul_lt_mul_right (a := 10 ^ zeros) ?_
        rw [hvalue, ← pow_add, hlength]
        exact (digitCount_le_iff Nat.length_toDigits_pos).mp le_rfl
      calc Nat.ofDigitChars 10 ds 0 * 10 ^ (shift + 1)
          ≤ 10 ^ ds.length * 10 ^ (shift + 1) := Nat.mul_le_mul_right _ hlt.le
        _ = 10 ^ (ds.length + (shift + 1)) := (pow_add 10 _ _).symm
        _ ≤ 10 ^ 18 := Nat.pow_le_pow_right (by decide) (by omega)
    · have hexponent : (10 : ℚ) ^ zeros * 10 ^ k = 10 ^ shift := by
        rw [← zpow_natCast, ← zpow_natCast, ← zpow_add₀ (by norm_num), add_comm, hshift]
      rw [← hvalue, zpow_neg_one]
      push_cast
      rw [mul_assoc _ ((10 : ℚ) ^ zeros), hexponent]
      ring
    · omega
    · omega

/-- What is shown of a number of the format other than zero is no zero, and has a small exponent. -/
theorem shortest_bounds {s : Bool} {m : ℕ} {e : ℤ} (hm : m ≠ 0)
    (hform : (finite s m e).IsCanonical) {c : ℕ} {k : ℤ} (h : shortest m e = (c, k)) :
    c ≠ 0 ∧ -342 < k ∧ k < 309 := by
  have ⟨hlt, hleast, hlargest, _⟩ := hform
  obtain ⟨hshort, hhigh⟩ := shortest_le h
  have hone : (1 : ℚ) ≤ m := Nat.one_le_cast.mpr (Nat.pos_of_ne_zero hm)
  have hlow : (2 : ℚ) ^ (-1075 : ℤ) ≤ c * 10 ^ k := by
    calc (2 : ℚ) ^ (-1075 : ℤ) = 1 / 2 * 2 ^ leastExponent := by
          rw [show (-1075 : ℤ) = -1 + leastExponent from rfl, zpow_add₀ (by norm_num)]
          norm_num
      _ ≤ (m - 1 / 2) * 2 ^ e := mul_le_mul (by linarith)
          (zpow_le_zpow_right₀ (by norm_num) hleast) (by positivity) (by linarith)
      _ ≤ lowEnd m e := le_lowEnd m e
      _ ≤ c * 10 ^ k := lowEnd_le_shortest hm hform h
  have hc : c ≠ 0 := by
    rintro rfl
    rw [Nat.cast_zero, zero_mul] at hlow
    exact absurd hlow (not_le.mpr (by positivity))
  have hpos : (1 : ℚ) ≤ c := Nat.one_le_cast.mpr (Nat.pos_of_ne_zero hc)
  have hshort' : (c : ℚ) ≤ 10 ^ (18 : ℤ) := by exact_mod_cast hshort
  have hm' : (m : ℚ) + 1 / 2 ≤ 2 ^ (53 : ℤ) := by
    have hsucc : (m : ℚ) + 1 ≤ 2 ^ (53 : ℤ) := by exact_mod_cast hlt
    linarith
  refine ⟨hc, ?_, ?_⟩
  · have hbottom : (10 : ℚ) ^ (-324 : ℤ) < 2 ^ (-1075 : ℤ) := by
      have hpow : 2 ^ 1075 < 10 ^ 324 := by decide +kernel
      rw [zpow_neg, zpow_neg]
      refine inv_strictAnti₀ (by positivity) ?_
      exact_mod_cast hpow
    have hplaces : (10 : ℚ) ^ (-324 : ℤ) < 10 ^ (18 + k) := by
      calc (10 : ℚ) ^ (-324 : ℤ) < 2 ^ (-1075 : ℤ) := hbottom
        _ ≤ c * 10 ^ k := hlow
        _ ≤ 10 ^ (18 : ℤ) * 10 ^ k := by gcongr
        _ = 10 ^ (18 + k) := (zpow_add₀ (by norm_num) _ _).symm
    have hexponents := (zpow_lt_zpow_iff_right₀ (by norm_num)).mp hplaces
    omega
  · have htop : (2 : ℚ) ^ (53 + largestExponent) < 10 ^ (309 : ℤ) := by
      have hpow : 2 ^ 1024 < 10 ^ 309 := by decide +kernel
      rw [show 53 + largestExponent = 1024 from rfl, zpow_ofNat, zpow_ofNat]
      simpa only [Nat.cast_pow, Nat.cast_ofNat] using Nat.cast_lt (α := ℚ).mpr hpow
    have hplaces : (10 : ℚ) ^ k < 10 ^ (309 : ℤ) := by
      calc (10 : ℚ) ^ k ≤ c * 10 ^ k := le_mul_of_one_le_left (by positivity) hpos
        _ ≤ (m + 1 / 2) * 2 ^ e := hhigh
        _ ≤ 2 ^ (53 : ℤ) * 2 ^ largestExponent := mul_le_mul hm'
            (zpow_le_zpow_right₀ (by norm_num) hlargest) (by positivity) (by positivity)
        _ = 2 ^ (53 + largestExponent) := (zpow_add₀ (by norm_num) _ _).symm
        _ < 10 ^ (309 : ℤ) := htop
    exact (zpow_lt_zpow_iff_right₀ (by norm_num)).mp hplaces

/-- The text of a number of the format reads back as the decimal that the number is shown as, with a
short coefficient. -/
theorem exists_ofText_text {x : Binary64} (hx : x.IsCanonical) :
    ∃ s c k, ofText x.text = .ok (.finite s c k) ∧ c ≤ 10 ^ 18 ∧
      (Decimal.finite s c k).value = x.shown.value := by
  cases x with
  | infinite => cases hx
  | nan => cases hx
  | finite s m e =>
      by_cases hm : m = 0
      · subst hm
        refine ⟨s, 0, -1, ?_, by decide, ?_⟩
        · show ofText (signText s ++ "0.0") = _
          cases s with
          | false | true => decide +kernel
        · rw [shown, if_pos rfl]
          cases s with
          | false | true => simp [Decimal.value]
      · rcases hshortest : shortest m e with ⟨c, k⟩
        have hshown : (finite s m e).shown = .finite s c k := by rw [shown, if_neg hm, hshortest]
        obtain ⟨hc, hlow, hhigh⟩ := shortest_bounds hm hx hshortest
        obtain ⟨c', k', hnumeral, hshort, hvalue, hle, hge⟩ :=
          exists_isNumeral_layout hc (shortest_le hshortest).1 k
        have hcount : digitCount c' ≤ 19 :=
          digitCount_le_of_lt (by decide) (hshort.trans_lt (by decide))
        refine ⟨s, c', k', ofText_eq hnumeral ?_ ?_, hshort, ?_⟩
        · rw [text, hshown]
          dsimp only
          rw [if_neg hc, String.toList_append]
        · simp only [writable, Bool.and_eq_true, decide_eq_true_eq]
          have hleast : leastWritten ≤ -342 := by decide
          have hlargest : 400 ≤ largestWritten := by decide
          refine ⟨by omega, ?_⟩
          split
          · rw [decide_eq_true_eq]
            omega
          · rw [decide_eq_true_eq]
            omega
        · rw [hshown, Decimal.value, Decimal.value, hvalue]

end Qualify.Binary64
