import Mathlib.Data.Int.Order.Basic
import Mathlib.Data.List.Sort

/-!
# Stable order

Rules run in ascending order with ties as they were given.  This file says what such an
arrangement is without saying how it is computed: the items stand in ascending order of their key,
and the items of each key stand as they did before.  These two facts leave no choice
(`IsStableSort.unique`), so whatever holds of one arrangement holds of the one that is computed.

The results that the rules need are about lists that differ in one item: arranging the longer list
is arranging the shorter one with the item put in somewhere (`IsStableSort.without`), and about
lists that differ in order only (`IsStableSort.eq_of_perm`).
-/

namespace Qualify

variable {α : Type} {key : α → Int}

/-- The second list has the items of the first in ascending order of their key, ties as they
were. -/
structure IsStableSort (key : α → Int) (xs ys : List α) : Prop where
  perm : ys.Perm xs
  ascending : ys.Pairwise fun a b => key a ≤ key b
  ties : ∀ k, (ys.filter fun a => key a = k) = xs.filter fun a => key a = k

theorem mem_of_ties {ys zs : List α}
    (ties : ∀ k, (ys.filter fun a => key a = k) = zs.filter fun a => key a = k) {a : α}
    (ha : a ∈ ys) : a ∈ zs := by
  have hmem : a ∈ zs.filter fun b => key b = key a :=
    ties (key a) ▸ List.mem_filter.mpr ⟨ha, by simp⟩
  exact (List.mem_filter.mp hmem).1

/-- The head of a list in ascending order is least. -/
theorem key_head_le {y : α} {ys : List α} (hys : (y :: ys).Pairwise fun a b => key a ≤ key b)
    {z : α} (hz : z ∈ y :: ys) : key y ≤ key z := by
  rcases List.mem_cons.mp hz with rfl | hz
  · exact le_rfl
  · exact (List.pairwise_cons.mp hys).1 z hz

/-- Two lists in ascending order that agree on the items of every key are one list. -/
theorem eq_of_ascending_of_ties {ys zs : List α} (hys : ys.Pairwise fun a b => key a ≤ key b)
    (hzs : zs.Pairwise fun a b => key a ≤ key b)
    (ties : ∀ k, (ys.filter fun a => key a = k) = zs.filter fun a => key a = k) : ys = zs := by
  have hties : ∀ k, (zs.filter fun a => key a = k) = ys.filter fun a => key a = k :=
    fun k => (ties k).symm
  induction ys generalizing zs with
  | nil =>
      cases zs with
      | nil => rfl
      | cons z zs => exact absurd (mem_of_ties hties List.mem_cons_self) List.not_mem_nil
  | cons y ys ih =>
      cases zs with
      | nil => exact absurd (mem_of_ties ties List.mem_cons_self) List.not_mem_nil
      | cons z zs =>
          -- both heads are least, so they have one key and are the first item of that key
          have hkey : key z = key y :=
            le_antisymm (key_head_le hzs (mem_of_ties ties List.mem_cons_self))
              (key_head_le hys (mem_of_ties hties List.mem_cons_self))
          have hhead : y = z := by
            have h := ties (key y)
            simp only [List.filter_cons, hkey, decide_true, if_true] at h
            exact (List.cons.inj h).1
          subst hhead
          have htail : ∀ k, (ys.filter fun a => key a = k) = zs.filter fun a => key a = k := by
            intro k
            have h := ties k
            by_cases hk : key y = k
            · simpa [List.filter_cons, hk] using h
            · simpa [List.filter_cons, hk] using h
          exact congrArg (y :: ·) (ih hys.of_cons hzs.of_cons htail fun k => (htail k).symm)

namespace IsStableSort

variable {xs ys zs : List α}

/-- There is only one stable arrangement of a list. -/
theorem unique (hys : IsStableSort key xs ys) (hzs : IsStableSort key xs zs) : ys = zs :=
  eq_of_ascending_of_ties hys.ascending hzs.ascending fun k => (hys.ties k).trans (hzs.ties k).symm

/-- Sorting by merging arranges stably. -/
theorem mergeSort (key : α → Int) (xs : List α) :
    IsStableSort key xs (xs.mergeSort fun a b => key a ≤ key b) := by
  have trans : ∀ a b c : α, decide (key a ≤ key b) → decide (key b ≤ key c) →
      decide (key a ≤ key c) := by
    intro a b c hab hbc
    simp only [decide_eq_true_eq] at hab hbc ⊢
    exact le_trans hab hbc
  have total : ∀ a b : α, (decide (key a ≤ key b) || decide (key b ≤ key a)) = true := by
    intro a b
    simpa using le_total (key a) (key b)
  refine ⟨List.mergeSort_perm _ _, ?_, fun k => ?_⟩
  · simpa using List.pairwise_mergeSort trans total xs
  · -- the items of one key are in order already, so they survive as a sublist of the same length
    have hsub : (xs.filter fun a => key a = k).Sublist (xs.mergeSort fun a b => key a ≤ key b) := by
      refine List.sublist_mergeSort trans total ?_ List.filter_sublist
      refine List.pairwise_of_forall_mem_list fun a ha b hb => ?_
      have ha := (List.mem_filter.mp ha).2
      have hb := (List.mem_filter.mp hb).2
      simp only [decide_eq_true_eq] at ha hb ⊢
      exact le_of_eq (ha.trans hb.symm)
    have hsub := hsub.filter fun a => decide (key a = k)
    rw [List.filter_filter, List.filter_congr fun a _ => Bool.and_self _] at hsub
    refine (hsub.eq_of_length ?_).symm
    exact ((List.mergeSort_perm _ _).filter _).length_eq.symm

/-- Arranging a list with one item more is arranging the list without it, and then putting it in
somewhere. -/
theorem without {v : α} (h : IsStableSort key (xs ++ v :: ys) zs) :
    ∃ as bs, zs = as ++ v :: bs ∧ IsStableSort key (xs ++ ys) (as ++ bs) := by
  -- the items with the key of `v` cut the arrangement at `v` itself, not at an equal item
  have hv : (zs.filter fun a => key a = key v) =
      (xs.filter fun a => key a = key v) ++ v :: ys.filter fun a => key a = key v := by
    rw [h.ties, List.filter_append, List.filter_cons]
    simp
  obtain ⟨as, rest, rfl, has, hrest⟩ := List.filter_eq_append_iff.mp hv
  obtain ⟨ms, bs, rfl, hms, -, hbs⟩ := List.filter_eq_cons_iff.mp hrest
  refine ⟨as ++ ms, bs, by simp, ?_, ?_, fun k => ?_⟩
  · have hperm : (v :: (as ++ ms ++ bs)).Perm (v :: (xs ++ ys)) := by
      refine List.perm_middle.symm.trans ?_
      refine (?_ : List.Perm _ _).trans List.perm_middle
      simpa using h.perm
    exact hperm.cons_inv
  · refine h.ascending.sublist ?_
    simp
  · have hk := h.ties k
    by_cases hvk : key v = k
    · subst hvk
      have hms : (ms.filter fun a => key a = key v) = [] :=
        List.filter_eq_nil_iff.mpr fun a ha => by simpa using hms a ha
      simp only [List.filter_append, has, hms, hbs, List.append_nil]
    · simpa [List.filter_append, List.filter_cons, hvk] using hk

/-- A list of items with keys of their own has one arrangement, in whatever order it is given. -/
theorem eq_of_perm {xs' ys' : List α} (hys : IsStableSort key xs ys)
    (hys' : IsStableSort key xs' ys') (hperm : xs'.Perm xs)
    (hdistinct : xs.Pairwise fun a b => key a ≠ key b) : ys' = ys := by
  have hnodup : (ys.map key).Nodup := by
    rw [(hys.perm.map key).nodup_iff, List.Nodup, List.pairwise_map]
    exact hdistinct
  refine ((hys'.perm.trans hperm).trans hys.perm.symm).eq_of_pairwise ?_ hys'.ascending
    hys.ascending
  intro a b ha hb hab hba
  have ha : a ∈ ys := ((hys'.perm.trans hperm).trans hys.perm.symm).mem_iff.mp ha
  exact List.inj_on_of_nodup_map hnodup ha hb (le_antisymm hab hba)

end IsStableSort

end Qualify
