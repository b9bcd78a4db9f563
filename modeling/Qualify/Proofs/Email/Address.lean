import Mathlib.Data.List.Infix
import Qualify.Email
import Qualify.Proofs.Text.Case

/-!
# The domain of an address

The domain of an address is what stands behind its last at sign, in lower case.  Lower case moves no
at sign, makes none and drops none, so a text gives no domain exactly if it has no at sign or ends
with one (`Address.domain_ofText_eq_none_iff`).
-/

namespace Qualify

namespace Text

variable {sep c : Char} {before after cs xs ys : List Char}

/-! ## The last separator -/

theorem exists_last_of_mem (h : sep ∈ cs) : ∃ xs ys, cs = xs ++ sep :: ys ∧ sep ∉ ys := by
  obtain ⟨ys, xs, heq, hnot⟩ := List.eq_append_cons_of_mem (List.mem_reverse.mpr h)
  refine ⟨xs.reverse, ys.reverse, ?_, fun hmem => hnot (List.mem_reverse.mp hmem)⟩
  rw [← List.reverse_reverse cs, heq, List.reverse_append, List.reverse_cons, List.append_assoc,
    List.singleton_append]

theorem splitAtLast?_of_notMem (h : sep ∉ cs) : splitAtLast? sep cs = none := by
  have hall : cs.reverse.takeWhile (· != sep) = cs.reverse := by
    rw [List.takeWhile_eq_self_iff]
    intro c hc
    exact bne_iff_ne.mpr fun heq => h (heq ▸ List.mem_reverse.mp hc)
  rw [splitAtLast?, hall, List.length_reverse]
  exact if_pos rfl

theorem splitAtLast?_append (h : sep ∉ ys) :
    splitAtLast? sep (xs ++ sep :: ys) = some (xs, ys) := by
  have htail : (xs ++ sep :: ys).reverse.takeWhile (· != sep) = ys.reverse := by
    have hall : ∀ c ∈ ys.reverse, (c != sep) = true := fun c hc =>
      bne_iff_ne.mpr fun heq => h (heq ▸ List.mem_reverse.mp hc)
    rw [List.reverse_append, List.reverse_cons, List.append_assoc,
      List.takeWhile_append_of_pos hall]
    simp
  have hlength : (xs ++ sep :: ys).length = xs.length + (1 + ys.length) := by
    rw [List.length_append, List.length_cons, Nat.add_comm 1]
  rw [splitAtLast?, htail, List.length_reverse, List.reverse_reverse, hlength, if_neg (by omega),
    Nat.sub_sub, Nat.add_comm ys.length 1, Nat.add_sub_cancel, List.take_left]

/-! ## At signs in lower case -/

theorem isLower_atSign : IsLower '@' := ⟨by decide, by decide, by decide +kernel⟩

theorem atSign_mem_lowerInContext (h : '@' ∈ lowerInContext before c after) : c = '@' :=
  eq_of_mem_lowerInContext (by decide) (by decide) h

theorem atSign_mem_lowerAfter (h : '@' ∈ lowerAfter before cs) : '@' ∈ cs := by
  induction cs generalizing before with
  | nil => exact absurd h List.not_mem_nil
  | cons c cs ih =>
      rcases List.mem_append.mp h with h | h
      · exact List.mem_cons.mpr (.inl (atSign_mem_lowerInContext h).symm)
      · exact List.mem_cons_of_mem c (ih h)

theorem lowerAfter_eq_nil_iff : lowerAfter before cs = [] ↔ cs = [] := by
  cases cs with
  | nil => exact Iff.rfl
  | cons c cs =>
      refine iff_of_false (fun h => ?_) (List.cons_ne_nil c cs)
      exact lowerInContext_ne_nil (List.append_eq_nil_iff.mp h).1

/-- Lower case keeps an at sign between the lower case of what stands before it and behind it. -/
theorem lower_append_atSign (xs ys : List Char) :
    lower (xs ++ '@' :: ys) =
      lowerBetween [] xs ('@' :: ys) ++ '@' :: lowerAfter ('@' :: xs.reverse) ys := by
  rw [lower, lowerAfter_append, lowerAfter, lowerInContext_of_isLower isLower_atSign,
    List.append_nil, List.singleton_append]

end Text

namespace Address

variable {s : String} {d : List Char}

theorem domain_ofText_of_notMem (h : '@' ∉ Text.lower (Text.trim s.toList)) :
    (ofText s).domain = none := by
  rw [ofText]
  split
  · rfl
  · rw [Text.splitAtLast?_of_notMem h]

theorem domain_ofText_of_append {xs ys : List Char}
    (h : Text.lower (Text.trim s.toList) = xs ++ '@' :: ys) (hys : '@' ∉ ys) :
    (ofText s).domain = if ys.isEmpty then none else some ys := by
  have hne : (xs ++ '@' :: ys).isEmpty = false := by simp
  rw [ofText, h]
  simp only [hne, Text.splitAtLast?_append hys, Bool.false_eq_true, if_false]

/-- The domain of an address is what stands behind its last at sign, in lower case. -/
theorem domain_ofText_eq_some_iff : (ofText s).domain = some d ↔
    d ≠ [] ∧ '@' ∉ d ∧ ∃ mailbox, Text.lower (Text.trim s.toList) = mailbox ++ '@' :: d := by
  constructor
  · intro h
    by_cases hmem : '@' ∈ Text.lower (Text.trim s.toList)
    · obtain ⟨xs, ys, heq, hys⟩ := Text.exists_last_of_mem hmem
      rw [domain_ofText_of_append heq hys] at h
      split at h
      · exact nomatch h
      · case isFalse hne =>
          cases Option.some.inj h
          exact ⟨fun hnil => hne (hnil ▸ rfl), hys, xs, heq⟩
    · exact nomatch (domain_ofText_of_notMem hmem).symm.trans h
  · rintro ⟨hne, hd, mailbox, heq⟩
    rw [domain_ofText_of_append heq hd, if_neg (by simpa using hne)]

/-- An address has no domain if it has no at sign, or nothing behind the last one. -/
theorem domain_ofText_eq_none_iff : (ofText s).domain = none ↔
    '@' ∉ Text.trim s.toList ∨ ∃ mailbox, Text.trim s.toList = mailbox ++ ['@'] := by
  constructor
  · intro h
    refine or_iff_not_imp_left.mpr fun hmem => ?_
    obtain ⟨xs, ys, heq, hys⟩ := Text.exists_last_of_mem (not_not.mp hmem)
    have hlower := Text.lower_append_atSign xs ys
    rw [← heq] at hlower
    rw [domain_ofText_of_append hlower fun hat => hys (Text.atSign_mem_lowerAfter hat)] at h
    split at h
    · case isTrue hempty =>
        rw [List.isEmpty_iff, Text.lowerAfter_eq_nil_iff] at hempty
        exact ⟨xs, by rw [heq, hempty]⟩
    · exact nomatch h
  · rintro (h | ⟨mailbox, h⟩)
    · exact domain_ofText_of_notMem fun hmem => h (Text.atSign_mem_lowerAfter hmem)
    · have hlower := Text.lower_append_atSign mailbox []
      rw [← h] at hlower
      exact domain_ofText_of_append hlower List.not_mem_nil

end Address

end Qualify
