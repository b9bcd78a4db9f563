import Qualify.Proofs.Text.Sigma

/-!
# Separators and lower case

White space and hyphens are neither letters nor ignored where a sigma looks for its neighbours.  So
lower case goes past them: it leaves a separator alone and works on what stands before it and behind
it as if each were a text of its own (`lower_append_separator`), and it makes none
(`isSeparator_of_mem_lowerInContext`).
-/

namespace Qualify.Text

/-- Is the character white space or a hyphen? -/
def isSeparator (c : Char) : Bool := isBlank c || c == '-'

variable {p : Char → Bool} {a b c d r : Char} {before after xs ys zs rs : List Char}

theorem isSeparator_eq_false_iff : isSeparator c = false ↔ isBlank c = false ∧ c ≠ '-' := by
  rw [isSeparator, Bool.or_eq_false_iff, beq_eq_false_iff_ne]

/-! ## The table -/

/-- The code points in a set of ranges. -/
def Ranges.points (rs : Ranges) : List Nat :=
  rs.flatMap fun range => List.range' range.1 (range.2 + 1 - range.1)

theorem Ranges.mem_points {rs : Ranges} {n : Nat} (h : rs.covers n = true) : n ∈ rs.points := by
  induction rs with
  | nil => cases h
  | cons range rs ih =>
      rw [Ranges.covers_cons, Bool.and_eq_true, Bool.or_eq_true, decide_eq_true_eq,
        decide_eq_true_eq] at h
      obtain ⟨hfirst, hlast | hrest⟩ := h
      · refine List.mem_append_left _ (List.mem_range'_1.mpr ⟨hfirst, ?_⟩)
        omega
      · exact List.mem_append_right _ (ih hrest)

def separators : List Char := '-' :: blankRanges.points.map Char.ofNat

theorem mem_separators (h : isSeparator c = true) : c ∈ separators := by
  rw [isSeparator, Bool.or_eq_true, beq_iff_eq] at h
  rcases h with hblank | rfl
  · exact .tail _ (List.mem_map.mpr ⟨c.toNat, Ranges.mem_points hblank, Char.ofNat_toNat c⟩)
  · exact .head _

/-- No separator has a case, and none is passed over by the context of a sigma. -/
theorem separators_plain : (separators.all fun c => c != '\u03A3' && c != '\u0130' &&
    lowerChar c == c && !isCaseIgnorable c && !isCased c) = true := by
  decide +kernel

theorem isLower_of_isSeparator (h : isSeparator c = true) : IsLower c := by
  have hplain := List.all_eq_true.mp separators_plain c (mem_separators h)
  simp only [Bool.and_eq_true, bne_iff_ne, beq_iff_eq] at hplain
  obtain ⟨⟨⟨⟨hsigma, hdotted⟩, hself⟩, -⟩, -⟩ := hplain
  exact ⟨hsigma, hdotted, hself⟩

/-- The context of a sigma ends at a separator. -/
theorem metCased_separator (h : isSeparator c = true) (cs : List Char) :
    metCased (c :: cs) = false := by
  have hplain := List.all_eq_true.mp separators_plain c (mem_separators h)
  simp only [Bool.and_eq_true, Bool.not_eq_true'] at hplain
  obtain ⟨⟨-, hignorable⟩, hcased⟩ := hplain
  rw [metCased, hignorable, hcased]
  exact if_neg Bool.false_ne_true

/-! ## Lower case around separators -/

theorem lower_append_separator (hr : isSeparator r = true) (xs ys : List Char) :
    lower (xs ++ r :: ys) = lower xs ++ r :: lower ys := by
  -- a sigma on either side meets the separator and nothing behind it
  have hxs : lowerBetween [] xs (r :: ys) = lower xs := by
    refine lowerBetween_eq_lower_iff.mpr ⟨fun h => Bool.false_ne_true h.1, fun h => ?_⟩
    rw [metCased_separator hr] at h
    exact Bool.false_ne_true h.1
  have hys : lowerBetween (r :: xs.reverse) ys [] = lower ys := by
    refine lowerBetween_eq_lower_iff.mpr ⟨fun h => ?_, fun h => Bool.false_ne_true h.1⟩
    rw [metCased_separator hr] at h
    exact Bool.false_ne_true h.1
  rw [lower, lowerAfter_append, hxs, lowerAfter,
    lowerInContext_of_isLower (isLower_of_isSeparator hr), List.append_nil,
    lowerAfter_eq_lowerBetween, hys, List.singleton_append]

/-- Lower case keeps a run of separators between the lower case of what stands on either side. -/
theorem lower_append_separators (hrs : ∀ c ∈ rs, isSeparator c = true) (hne : rs ≠ [])
    (xs ys : List Char) : lower (xs ++ (rs ++ ys)) = lower xs ++ (rs ++ lower ys) := by
  induction rs generalizing xs with
  | nil => exact absurd rfl hne
  | cons r rs ih =>
      rw [List.forall_mem_cons] at hrs
      rw [List.cons_append, lower_append_separator hrs.1]
      cases rs with
      | nil => rfl
      | cons r' rs =>
          have htail := ih hrs.2 (List.cons_ne_nil r' rs) []
          rw [List.nil_append] at htail
          rw [htail]
          rfl

theorem isSeparator_of_mem_lowerInContext (hc : isSeparator c = false)
    (h : d ∈ lowerInContext before c after) : isSeparator d = false := by
  obtain ⟨hblank, hhyphen⟩ := isSeparator_eq_false_iff.mp hc
  refine isSeparator_eq_false_iff.mpr ⟨isBlank_of_mem_lowerInContext hblank h, ?_⟩
  rintro rfl
  exact hhyphen (eq_of_mem_lowerInContext (by decide) (by decide) h)

/-- A text that begins with no separator does not in lower case, either. -/
theorem exists_lower_cons (hc : isSeparator c = false) (cs : List Char) :
    ∃ d ds, lower (c :: cs) = d :: ds ∧ isSeparator d = false := by
  have hne : lowerInContext [] c cs ≠ [] := lowerInContext_ne_nil
  obtain ⟨d, ds, hd⟩ := List.exists_cons_of_ne_nil hne
  refine ⟨d, ds ++ lowerAfter [c] cs, ?_, ?_⟩
  · rw [lower, lowerAfter, hd, List.cons_append]
  · exact isSeparator_of_mem_lowerInContext hc (hd ▸ List.mem_cons_self)

/-- A text that ends with no separator does not in lower case, either. -/
theorem exists_lower_concat (hc : isSeparator c = false) (cs : List Char) :
    ∃ ds d, lower (cs ++ [c]) = ds ++ [d] ∧ isSeparator d = false := by
  obtain hnil | ⟨ds, d, hd⟩ := List.eq_nil_or_concat' (lowerInContext cs.reverse c [])
  · exact absurd hnil lowerInContext_ne_nil
  · refine ⟨lowerBetween [] cs [c] ++ ds, d, ?_, ?_⟩
    · rw [lower, lowerAfter_append, lowerAfter, lowerAfter, List.append_nil, List.append_nil, hd,
        List.append_assoc]
    · exact isSeparator_of_mem_lowerInContext hc (hd ▸ List.mem_append_right _ (.head _))

/-! ## Trimming -/

theorem dropWhile_append_cons (ha : p a = false) (xs ys : List Char) :
    (xs ++ a :: ys).dropWhile p = xs.dropWhile p ++ a :: ys := by
  rw [List.dropWhile_append, List.dropWhile_cons_of_neg (by simp [ha])]
  split
  · case isTrue h => rw [List.isEmpty_iff.mp h, List.nil_append]
  · rfl

/-- What stands between two characters that stay is not touched. -/
theorem trimBy_append_cons (ha : p a = false) (hb : p b = false) (xs zs ys : List Char) :
    trimBy p (xs ++ a :: (zs ++ b :: ys)) =
      xs.dropWhile p ++ a :: (zs ++ b :: (ys.reverse.dropWhile p).reverse) := by
  have hreverse : (xs.dropWhile p ++ a :: (zs ++ b :: ys)).reverse =
      ys.reverse ++ b :: (xs.dropWhile p ++ a :: zs).reverse := by simp
  rw [trimBy, dropWhile_append_cons ha, hreverse, dropWhile_append_cons hb]
  simp

/-- Blanks around a text fall away. -/
theorem trim_surrounded (hbefore : ∀ c ∈ before, isBlank c = true)
    (hafter : ∀ c ∈ after, isBlank c = true) (cs : List Char) :
    trim (before ++ cs ++ after) = trim cs := by
  have hreverse : ∀ c ∈ after.reverse, isBlank c = true :=
    fun c hc => hafter c (List.mem_reverse.mp hc)
  rw [trim, trimBy, List.append_assoc, List.dropWhile_append_of_pos hbefore, List.dropWhile_append]
  split
  · case isTrue h =>
      rw [trim, trimBy, List.isEmpty_iff.mp h, List.dropWhile_eq_nil_iff.mpr hafter]
  · rw [List.reverse_append, List.dropWhile_append_of_pos hreverse]
    rfl

end Qualify.Text
