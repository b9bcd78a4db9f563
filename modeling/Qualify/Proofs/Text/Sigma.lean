import Mathlib.Data.List.Infix
import Qualify.Proofs.Text.Case

/-!
# The lower case of a piece of a text

A piece of a text has its own lower case inside the text, unless a capital sigma near one of its
ends takes another form there: one that opens the piece and ends a word that began before it, or one
that closes the piece and whose word goes on behind it (`lowerBetween_eq_lower_iff`).  So the lower
case of a text may not begin or end with that of its own beginning or end
(`lower_prefix_append_iff`, `lower_suffix_append_iff`), and need not hold that of a piece of it
(`lower_infix_everywhere_iff`).
-/

namespace Qualify.Text

variable {before before' after after' cs xs ys : List Char} {c : Char}

/-! ## What the context of a sigma meets -/

theorem metCased_ignorable (h : ∀ c ∈ xs, isCaseIgnorable c = true) (ys : List Char) :
    metCased (xs ++ ys) = metCased ys := by
  induction xs with
  | nil => rfl
  | cons x xs ih =>
      rw [List.forall_mem_cons] at h
      rw [List.cons_append, metCased, if_pos h.1, ih h.2]

theorem metCased_eq_false (h : ∀ c ∈ xs, isCaseIgnorable c = true) : metCased xs = false := by
  rw [← List.append_nil xs, metCased_ignorable h, metCased]

/-- The context does not look past a character that it cannot ignore. -/
theorem metCased_append (h : ¬ ∀ c ∈ xs, isCaseIgnorable c = true) (ys : List Char) :
    metCased (xs ++ ys) = metCased xs := by
  induction xs with
  | nil => exact absurd (List.forall_mem_nil _) h
  | cons x xs ih =>
      rw [List.cons_append, metCased, metCased]
      split
      · case isTrue hx => exact ih fun hxs => h (List.forall_mem_cons.mpr ⟨hx, hxs⟩)
      · rfl

/-- The form that a capital sigma takes between its neighbours, those before it nearest first. -/
def sigmaForm (before after : List Char) : Char :=
  if metCased before && !metCased after then '\u03C2' else '\u03C3'

theorem sigmaForm_eq_iff :
    sigmaForm before after = sigmaForm before' after' ↔
      (metCased before && !metCased after) = (metCased before' && !metCased after') := by
  have hform : ∀ b b' : Bool, (if b then '\u03C2' else '\u03C3') =
      (if b' then '\u03C2' else '\u03C3') ↔ b = b' := by decide
  exact hform _ _

theorem lowerInContext_sigma (before after : List Char) :
    lowerInContext before '\u03A3' after = [sigmaForm before after] := rfl

theorem lowerInContext_of_ne (h : c ≠ '\u03A3') (before before' after after' : List Char) :
    lowerInContext before c after = lowerInContext before' c after' := by
  rw [lowerInContext, lowerInContext, if_neg h, if_neg h]

/-! ## Pieces -/

theorem length_lowerBetween (cs before before' after after' : List Char) :
    (lowerBetween before cs after).length = (lowerBetween before' cs after').length :=
  (forall₂_lowerBetween cs before before' after after').length_eq

/-- What holds of the forms of every sigma in a piece holds all through its lower case. -/
theorem forall₂_lowerBetween_of {R : Char → Char → Prop} (hrefl : ∀ c, R c c)
    (h : ∀ xs ys, cs = xs ++ '\u03A3' :: ys →
      R (sigmaForm (xs.reverse ++ before) (ys ++ after))
        (sigmaForm (xs.reverse ++ before') (ys ++ after'))) :
    List.Forall₂ R (lowerBetween before cs after) (lowerBetween before' cs after') := by
  induction cs generalizing before before' with
  | nil => exact .nil
  | cons c cs ih =>
      refine List.rel_append ?_ (ih fun xs ys heq => ?_)
      · by_cases hc : c = '\u03A3'
        · subst hc
          rw [lowerInContext_sigma, lowerInContext_sigma]
          exact .cons (h [] cs rfl) .nil
        · rw [lowerInContext_of_ne hc before before' (cs ++ after) (cs ++ after')]
          exact List.forall₂_same.mpr fun d _ => hrefl d
      · simpa using h (c :: xs) ys (by rw [heq]; rfl)

/-- A piece has one lower case in two surroundings if each sigma in it has one form. -/
theorem lowerBetween_eq_iff :
    lowerBetween before cs after = lowerBetween before' cs after' ↔
      ∀ xs ys, cs = xs ++ '\u03A3' :: ys → sigmaForm (xs.reverse ++ before) (ys ++ after) =
        sigmaForm (xs.reverse ++ before') (ys ++ after') := by
  refine ⟨fun h => ?_, fun h => List.forall₂_eq_eq_eq ▸ forall₂_lowerBetween_of (fun _ => rfl) h⟩
  induction cs generalizing before before' with
  | nil => simp
  | cons c cs ih =>
      have hlength : (lowerInContext before c (cs ++ after)).length =
          (lowerInContext before' c (cs ++ after')).length :=
        (forall₂_lowerInContext before before' c _ _).length_eq
      obtain ⟨hc, hcs⟩ := List.append_inj h hlength
      intro xs ys heq
      cases xs with
      | nil =>
          obtain ⟨rfl, rfl⟩ := List.cons.inj heq
          exact List.singleton_inj.mp hc
      | cons x xs =>
          obtain ⟨rfl, rfl⟩ := List.cons.inj heq
          simpa using ih hcs xs ys rfl

/-- The first character of a piece that its sigmas do not look past is a capital sigma with no cased
character behind it: it takes its final form if a word comes up to the piece. -/
def OpensWithSigma (cs after : List Char) : Prop :=
  ∃ skipped rest, cs = skipped ++ '\u03A3' :: rest ∧ (∀ c ∈ skipped, isCaseIgnorable c = true) ∧
    metCased (rest ++ after) = false

/-- The last such character is a capital sigma at the end of a word: it loses its final form if the
word goes on behind the piece. -/
def ClosesWithSigma (cs : List Char) : Prop :=
  ∃ start skipped, cs = start ++ '\u03A3' :: skipped ∧ metCased start.reverse = true ∧
    ∀ c ∈ skipped, isCaseIgnorable c = true

theorem metCased_reverse (h : ∀ c ∈ xs, isCaseIgnorable c = true) (before : List Char) :
    metCased (xs.reverse ++ before) = metCased before :=
  metCased_ignorable (fun c hc => h c (List.mem_reverse.mp hc)) before

theorem metCased_reverse_eq_false (h : ∀ c ∈ xs, isCaseIgnorable c = true) :
    metCased xs.reverse = false :=
  metCased_eq_false fun c hc => h c (List.mem_reverse.mp hc)

/-- What stands around a piece shows in its lower case only at a sigma that opens or closes it. -/
theorem lowerBetween_eq_lower_iff :
    lowerBetween before cs after = lower cs ↔
      ¬ (metCased before = true ∧ OpensWithSigma cs after) ∧
        ¬ (metCased after = true ∧ ClosesWithSigma cs) := by
  rw [lower, lowerAfter_eq_lowerBetween, lowerBetween_eq_iff]
  simp only [sigmaForm_eq_iff, List.append_nil]
  constructor
  · intro h
    constructor
    · rintro ⟨hbefore, skipped, rest, rfl, hskipped, hrest⟩
      have hform := h skipped rest rfl
      rw [metCased_reverse hskipped, hbefore, hrest, metCased_reverse_eq_false hskipped] at hform
      cases hform
    · rintro ⟨hafter, start, skipped, rfl, hstart, hskipped⟩
      have hform := h start skipped rfl
      rw [metCased_ignorable hskipped, hafter, hstart, metCased_eq_false hskipped] at hform
      simp at hform
  · rintro ⟨hopens, hcloses⟩ xs ys rfl
    by_cases hxs : ∀ d ∈ xs, isCaseIgnorable d = true
    · rw [metCased_reverse hxs, metCased_reverse_eq_false hxs, Bool.false_and,
        Bool.and_eq_false_iff, Bool.not_eq_false']
      rcases Bool.eq_false_or_eq_true (metCased before) with hbefore | hbefore
      · rw [or_iff_right (by simp [hbefore])]
        by_contra hafter
        exact hopens ⟨hbefore, xs, ys, rfl, hxs, eq_false_of_ne_true hafter⟩
      · exact .inl hbefore
    · have hreverse : ¬ ∀ d ∈ xs.reverse, isCaseIgnorable d = true :=
        fun h => hxs fun d hd => h d (List.mem_reverse.mpr hd)
      rw [metCased_append hreverse]
      by_cases hys : ∀ d ∈ ys, isCaseIgnorable d = true
      · rw [metCased_ignorable hys, metCased_eq_false hys]
        rcases Bool.eq_false_or_eq_true (metCased xs.reverse) with hstart | hstart
        · have hafter : metCased after = false := by
            by_contra hafter
            exact hcloses ⟨eq_true_of_ne_false hafter, xs, ys, rfl, hstart, hys⟩
          rw [hafter]
        · rw [hstart, Bool.false_and, Bool.false_and]
      · rw [metCased_append hys]

/-! ## The beginning and the end of a text -/

theorem lower_append (xs ys : List Char) :
    lower (xs ++ ys) = lowerBetween [] xs ys ++ lowerBetween xs.reverse ys [] := by
  rw [lower, lowerAfter_append, lowerAfter_eq_lowerBetween, List.append_nil]

/-- A text in lower case begins with the lower case of its beginning, unless that closes with a
sigma whose word goes on. -/
theorem lower_prefix_append_iff :
    lower xs <+: lower (xs ++ ys) ↔ ¬ (metCased ys = true ∧ ClosesWithSigma xs) := by
  have hpiece : lower xs <+: lower (xs ++ ys) ↔ lowerBetween [] xs ys = lower xs := by
    rw [lower_append]
    constructor
    · intro h
      have hlength : (lowerBetween [] xs ys).length = (lower xs).length := by
        rw [lower, lowerAfter_eq_lowerBetween, length_lowerBetween]
      exact (List.prefix_of_prefix_length_le (List.prefix_append _ _) h hlength.le).eq_of_length
        hlength
    · intro h
      rw [h]
      exact List.prefix_append _ _
  rw [hpiece, lowerBetween_eq_lower_iff]
  exact and_iff_right fun h => Bool.false_ne_true h.1

/-- A text in lower case ends with the lower case of its end, unless that opens with a sigma that
ends a word of the text. -/
theorem lower_suffix_append_iff :
    lower ys <:+ lower (xs ++ ys) ↔ ¬ (metCased xs.reverse = true ∧ OpensWithSigma ys []) := by
  have hpiece : lower ys <:+ lower (xs ++ ys) ↔ lowerBetween xs.reverse ys [] = lower ys := by
    rw [lower_append]
    constructor
    · intro h
      have hlength : (lowerBetween xs.reverse ys []).length = (lower ys).length := by
        rw [lower, lowerAfter_eq_lowerBetween, length_lowerBetween]
      exact (List.suffix_of_suffix_length_le (List.suffix_append _ _) h hlength.le).eq_of_length
        hlength
    · intro h
      rw [h]
      exact List.suffix_append _ _
  rw [hpiece, lowerBetween_eq_lower_iff]
  exact and_iff_left fun h => Bool.false_ne_true h.1

/-! ## A piece anywhere in a text -/

theorem OpensWithSigma.mono (h : OpensWithSigma cs after) : OpensWithSigma cs [] := by
  obtain ⟨skipped, rest, rfl, hskipped, hrest⟩ := h
  refine ⟨skipped, rest, rfl, hskipped, ?_⟩
  rw [List.append_nil]
  by_cases hignorable : ∀ c ∈ rest, isCaseIgnorable c = true
  · exact metCased_eq_false hignorable
  · rwa [metCased_append hignorable] at hrest

/-- The lower case of a piece stands in that of the text unless one of its sigmas changes form. -/
theorem lower_infix_append (hopens : ¬ (metCased xs.reverse = true ∧ OpensWithSigma cs ys))
    (hcloses : ¬ (metCased ys = true ∧ ClosesWithSigma cs)) :
    lower cs <:+: lower (xs ++ cs ++ ys) := by
  have hpiece : lowerBetween xs.reverse cs ys = lower cs :=
    lowerBetween_eq_lower_iff.mpr ⟨hopens, hcloses⟩
  refine ⟨lowerBetween [] xs (cs ++ ys), lowerBetween (cs.reverse ++ xs.reverse) ys [], ?_⟩
  rw [← hpiece, lower, List.append_assoc xs, lowerAfter_append, lowerAfter_append,
    lowerAfter_eq_lowerBetween, List.append_nil, List.append_assoc]

/-- Texts that differ only where the second has a character and the first another one: the second
has more of that character. -/
theorem count_lt_of_forall₂ {a : Char} (h : List.Forall₂ (fun c d => c = d ∨ c ≠ a ∧ d = a) xs ys)
    (hne : xs ≠ ys) : xs.count a < ys.count a := by
  have hle : ∀ {xs ys : List Char}, List.Forall₂ (fun c d => c = d ∨ c ≠ a ∧ d = a) xs ys →
      xs.count a ≤ ys.count a := by
    intro xs ys h
    induction h with
    | nil => exact le_rfl
    | cons hcd _ ih =>
        rcases hcd with rfl | ⟨hc, rfl⟩
        · simpa [List.count_cons] using ih
        · rw [List.count_cons_of_ne hc, List.count_cons_self]
          omega
  induction h with
  | nil => exact absurd rfl hne
  | @cons c d xs ys hcd htail ih =>
      rcases hcd with rfl | ⟨hc, rfl⟩
      · have hlt := ih fun h => hne (by rw [h])
        simpa [List.count_cons] using hlt
      · have hrest := hle htail
        rw [List.count_cons_of_ne hc, List.count_cons_self]
        omega

/-- Text before a piece gives sigmas their final form, and takes it from none. -/
theorem count_lt_of_before (h : lowerBetween before cs [] ≠ lower cs) :
    (lowerBetween before cs []).count '\u03C3' < (lower cs).count '\u03C3' := by
  rw [lower, lowerAfter_eq_lowerBetween] at h ⊢
  refine count_lt_of_forall₂ (forall₂_lowerBetween_of (fun _ => .inl rfl) fun xs ys _ => ?_) h
  rw [List.append_nil, List.append_nil]
  by_cases hxs : ∀ c ∈ xs.reverse, isCaseIgnorable c = true
  · have halone : sigmaForm xs.reverse ys = '\u03C3' := by
      rw [sigmaForm, metCased_eq_false hxs]
      rfl
    rw [halone]
    exact or_iff_not_imp_left.mpr fun hne => ⟨hne, rfl⟩
  · exact .inl (sigmaForm_eq_iff.mpr (by rw [metCased_append hxs]))

/-- Text behind a piece takes their final form from sigmas, and gives it to none. -/
theorem count_lt_of_after (h : lowerBetween [] cs after ≠ lower cs) :
    (lowerBetween [] cs after).count '\u03C2' < (lower cs).count '\u03C2' := by
  rw [lower, lowerAfter_eq_lowerBetween] at h ⊢
  refine count_lt_of_forall₂ (forall₂_lowerBetween_of (fun _ => .inl rfl) fun xs ys _ => ?_) h
  rw [List.append_nil, List.append_nil]
  by_cases hys : ∀ c ∈ ys, isCaseIgnorable c = true
  · cases hxs : metCased xs.reverse with
    | false => exact .inl (sigmaForm_eq_iff.mpr (by rw [hxs, Bool.false_and, Bool.false_and]))
    | true =>
        have halone : sigmaForm xs.reverse ys = '\u03C2' := by
          rw [sigmaForm, hxs, metCased_eq_false hys]
          rfl
        rw [halone]
        exact or_iff_not_imp_left.mpr fun hne => ⟨hne, rfl⟩
  · exact .inl (sigmaForm_eq_iff.mpr (by rw [metCased_append hys]))

/-- The lower case of a piece stands in that of every text around it exactly if no sigma opens or
closes the piece. -/
theorem lower_infix_everywhere_iff :
    (∀ xs ys, lower cs <:+: lower (xs ++ cs ++ ys)) ↔
      ¬ OpensWithSigma cs [] ∧ ¬ ClosesWithSigma cs := by
  have hlower : IsLower 'a' := ⟨by decide, by decide, by decide +kernel⟩
  have hletter : ∀ before after, lowerBetween before ['a'] after = ['a'] := by
    intro before after
    rw [lowerBetween, lowerInContext_of_isLower hlower, lowerBetween, List.append_nil]
  have hcased : metCased ['a'] = true := by decide +kernel
  constructor
  · intro h
    constructor
    · intro hopens
      have hne : lowerBetween ['a'] cs [] ≠ lower cs :=
        fun heq => (lowerBetween_eq_lower_iff.mp heq).1 ⟨hcased, hopens⟩
      have hcount := (h ['a'] []).count_le '\u03C3'
      rw [List.append_nil, lower_append, hletter, List.singleton_append,
        List.count_cons_of_ne (by decide)] at hcount
      exact absurd (count_lt_of_before hne) (Nat.not_lt.mpr hcount)
    · intro hcloses
      have hne : lowerBetween [] cs ['a'] ≠ lower cs :=
        fun heq => (lowerBetween_eq_lower_iff.mp heq).2 ⟨hcased, hcloses⟩
      have hcount := (h [] ['a']).count_le '\u03C2'
      rw [List.nil_append, lower_append, hletter, List.count_append,
        List.count_singleton] at hcount
      exact absurd (count_lt_of_after hne) (Nat.not_lt.mpr hcount)
  · rintro ⟨hopens, hcloses⟩ xs ys
    exact lower_infix_append (fun h => hopens h.2.mono) fun h => hcloses h.2

end Qualify.Text
