import Mathlib.Data.List.Infix
import Qualify.Email
import Qualify.Proofs.Text.Pieces

/-!
# Domains below a domain

Cutting labels off the front of a domain, one after the other, leaves the domains above it.  These
are the endings of the domain that begin behind a dot, so a domain belongs to a set exactly if it is
a domain of the set or stands below one (`Domain.belongsTo_iff_isWithin`).  A domain of a single
label is never looked up, and what else a domain may end with makes no difference.
-/

namespace Qualify.Domain

variable {d s label rest before : List Char} {domains : List String}

/-- A domain is another one, or stands below it: labels and a dot come before the other one. -/
def IsWithin (d s : List Char) : Prop := d = s ∨ '.' :: s <:+ d

instance (d s : List Char) : Decidable (IsWithin d s) := inferInstanceAs (Decidable (_ ∨ _))

theorem IsWithin.below (h : IsWithin d s) (label : List Char) : IsWithin (label ++ '.' :: d) s := by
  have hbelow : d <:+ label ++ '.' :: d :=
    (List.suffix_cons '.' d).trans (List.suffix_append label _)
  rcases h with rfl | h
  · exact .inr (List.suffix_append label _)
  · exact .inr (h.trans hbelow)

/-- A domain stands below the others that the part behind its first label is within. -/
theorem isWithin_append_iff (hlabel : '.' ∉ label) :
    IsWithin (label ++ '.' :: rest) s ↔ label ++ '.' :: rest = s ∨ IsWithin rest s := by
  refine or_congr_right ?_
  induction label with
  | nil =>
      rw [List.nil_append, List.suffix_cons_iff, List.cons.injEq, IsWithin, eq_comm (a := s)]
      exact or_congr_left (and_iff_right rfl)
  | cons c label ih =>
      obtain ⟨hc, hlabel⟩ := not_or.mp (List.mem_cons.not.mp hlabel)
      rw [List.cons_append, List.suffix_cons_iff, List.cons.injEq, ih hlabel]
      exact or_iff_right fun h => hc h.1

/-! ## The domains above a domain -/

theorem withParents_of_notMem (h : '.' ∉ d) : withParents d = [] := by
  rw [withParents, Text.splitOn_of_notMem h]
  rfl

/-- Behind its first label a domain has the domains above it. -/
theorem withParents_append (hlabel : '.' ∉ label) :
    withParents (label ++ '.' :: rest) = (label ++ '.' :: rest) :: withParents rest := by
  have hpieces : Text.splitOn '.' (label ++ '.' :: rest) = label :: Text.splitOn '.' rest := by
    rw [Text.splitOn_append, Text.splitOn_of_notMem hlabel, List.singleton_append]
  have hwhole := Text.joinWith_splitOn '.' (label ++ '.' :: rest)
  obtain ⟨p, ps, hrest⟩ := List.exists_cons_of_ne_nil (Text.splitOn_ne_nil '.' rest)
  rw [withParents, withParents, hpieces, hrest, tails, List.map_cons, ← hrest, ← hpieces, hwhole]

/-- What a domain is looked up as: itself and what stands behind one of its dots, as long as a dot
is left. -/
theorem mem_withParents_iff : s ∈ withParents d ↔ '.' ∈ s ∧ IsWithin d s := by
  induction hlength : d.length using Nat.strongRecOn generalizing d with
  | ind n ih =>
      by_cases hdot : '.' ∈ d
      · obtain ⟨label, rest, rfl, hlabel⟩ := List.eq_append_cons_of_mem hdot
        have hshorter : rest.length < n := by
          rw [← hlength, List.length_append, List.length_cons]
          omega
        rw [withParents_append hlabel, List.mem_cons, ih _ hshorter rfl, isWithin_append_iff hlabel]
        constructor
        · rintro (rfl | ⟨hs, h⟩)
          · exact ⟨hdot, .inl rfl⟩
          · exact ⟨hs, .inr h⟩
        · rintro ⟨hs, rfl | h⟩
          · exact .inl rfl
          · exact .inr ⟨hs, h⟩
      · rw [withParents_of_notMem hdot]
        refine iff_of_false List.not_mem_nil ?_
        rintro ⟨hs, rfl | h⟩
        · exact hdot hs
        · exact hdot (h.subset List.mem_cons_self)

/-! ## Sets of domains -/

theorem belongsTo_some_iff :
    belongsTo (some d) domains = true ↔
      ∃ s ∈ domains, '.' ∈ s.toList ∧ IsWithin d s.toList := by
  rw [belongsTo, List.any_eq_true]
  simp only [List.contains_iff_mem, mem_withParents_iff]
  constructor
  · rintro ⟨s, hs, hmem⟩
    exact ⟨String.ofList s, hmem, by rwa [String.toList_ofList]⟩
  · rintro ⟨s, hmem, hs⟩
    exact ⟨s.toList, hs, by rwa [String.ofList_toList]⟩

/-- A domain belongs to a set of domains exactly if it is not empty and is, or stands below, a
domain of the set that has a dot.  So what stands below a domain that belongs to a set does too, a
domain that belongs to a set belongs to every larger one, and a domain that merely ends like a domain
of the set, in the middle of a label, does not belong to it on that account. -/
theorem belongsTo_iff_isWithin (d : List Char) (domains : List String) :
    (belongsTo (some d) domains = true ↔
      d ≠ [] ∧ ∃ s ∈ domains, '.' ∈ s.toList ∧ (d = s.toList ∨ '.' :: s.toList <:+ d)) ∧
    (belongsTo (some d) domains = true →
      ∀ labels, belongsTo (some (labels ++ '.' :: d)) domains = true) ∧
    (belongsTo (some d) domains = true →
      ∀ larger, domains ⊆ larger → belongsTo (some d) larger = true) ∧
    ∀ before s, d = before ++ String.toList s → (∃ c ∈ before.getLast?, c ≠ '.') →
      belongsTo (some d) [s] = false := by
  refine ⟨?_, ?_, ?_, ?_⟩
  · refine belongsTo_some_iff.trans (iff_and_self.mpr ?_)
    rintro ⟨s, -, hdot, rfl | h⟩
    · exact List.ne_nil_of_mem hdot
    · exact List.ne_nil_of_mem (h.subset List.mem_cons_self)
  · intro h labels
    obtain ⟨s, hs, hdot, hwithin⟩ := belongsTo_some_iff.mp h
    exact belongsTo_some_iff.mpr ⟨s, hs, hdot, hwithin.below labels⟩
  · intro h larger hsubset
    obtain ⟨s, hs, hwithin⟩ := belongsTo_some_iff.mp h
    exact belongsTo_some_iff.mpr ⟨s, hsubset hs, hwithin⟩
  · rintro before s rfl ⟨c, hc, hne⟩
    obtain ⟨front, rfl⟩ := List.getLast?_eq_some_iff.mp hc
    rw [Bool.eq_false_iff, Ne, belongsTo_some_iff]
    rintro ⟨t, ht, -, hwithin⟩
    cases List.mem_singleton.mp ht
    rcases hwithin with h | ⟨rest, hrest⟩
    · exact absurd (List.append_left_eq_self.mp h) (List.concat_ne_nil _ _)
    · rw [List.append_cons] at hrest
      have hlast := congrArg List.getLast? (List.append_cancel_right hrest)
      rw [List.getLast?_concat, List.getLast?_concat] at hlast
      exact hne (Option.some.inj hlast).symm

/-- What stands below a listed domain belongs to the list, and what merely ends like it does not. -/
theorem belongsTo_iff_isWithin_mail :
    belongsTo (some "mail.example.com".toList) ["com", "example.com"] = true ∧
      belongsTo (some "notexample.com".toList) ["example.com"] = false := by
  obtain ⟨hiff, hbelow, -⟩ := belongsTo_iff_isWithin "example.com".toList ["com", "example.com"]
  have hlisted : belongsTo (some "example.com".toList) ["com", "example.com"] = true :=
    hiff.mpr ⟨by decide, "example.com", by decide, by decide, .inl rfl⟩
  exact ⟨hbelow hlisted "mail".toList,
    (belongsTo_iff_isWithin "notexample.com".toList []).2.2.2 "not".toList "example.com" rfl
      ⟨'t', rfl, by decide⟩⟩

end Qualify.Domain
