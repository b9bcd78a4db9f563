import Mathlib.Algebra.BigOperators.Group.List.Basic
import Qualify.Proofs.Application

/-!
# Rules do not meet

Every payload has the outcome that it would have alone, whatever stands around it.  So putting in
or taking out one payload changes a list of outcomes at one place only (`exists_ofRules_insert`,
`exists_ofRules_erase`), the total does not depend on the order of the list, and neither do the
adjustments once no two rules claim the same place.
-/

namespace Qualify.Application

variable {cells : Cells} {lead v : Value} {base : Int} {o : Outcome} {xs ys vs ws : List Value}
variable {a : Application}

/-- A payload has an outcome when it is applied alone to a lead. -/
def YieldsAlone (cells : Cells) (lead v : Value) (o : Outcome) : Prop :=
  ∀ base, ofRules cells lead (.list [v]) base = .ok { total := base + o.delta, outcomes := [o] }

theorem yieldsAlone_iff :
    YieldsAlone cells lead v o ↔ alone cells (rootOf cells lead) v = .ok o := by
  have hsingle : arranged [v] = [v] := List.perm_singleton.mp (arranged_perm [v])
  constructor
  · intro h
    obtain ⟨h, -⟩ := ofRules_list_eq_ok_iff.mp (h 0)
    rw [hsingle] at h
    exact (List.forall₂_cons.mp h).1
  · intro h base
    refine ofRules_list_eq_ok_iff.mpr ⟨?_, by simp⟩
    rw [hsingle]
    exact .cons h .nil

/-! ## One payload more or less -/

/-- Putting a payload into a list puts it in at one place of the arrangement. -/
theorem exists_arranged_insert (xs ys : List Value) (v : Value) :
    ∃ as bs, arranged (xs ++ v :: ys) = as ++ v :: bs ∧ arranged (xs ++ ys) = as ++ bs := by
  cases hv : isRule v with
  | true =>
      have hothers : nonRules (xs ++ v :: ys) = nonRules (xs ++ ys) := by simp [nonRules, hv]
      have hsort := isStableSort_rulesInOrder (xs ++ v :: ys)
      rw [List.filter_append, List.filter_cons_of_pos hv] at hsort
      obtain ⟨as, bs, has, hless⟩ := hsort.without
      rw [← List.filter_append] at hless
      refine ⟨nonRules (xs ++ ys) ++ as, bs, ?_, ?_⟩
      · rw [arranged, hothers, has, List.append_assoc]
      · rw [arranged, (isStableSort_rulesInOrder (xs ++ ys)).unique hless, List.append_assoc]
  | false =>
      have hrules : rulesInOrder (xs ++ v :: ys) = rulesInOrder (xs ++ ys) := by
        simp [rulesInOrder, hv]
      refine ⟨nonRules xs, nonRules ys ++ rulesInOrder (xs ++ ys), ?_, ?_⟩
      · simp [arranged, hrules, nonRules, hv]
      · simp [arranged, nonRules]

/-- A payload put into a list adds its own outcome and its own points. -/
theorem exists_ofRules_insert (h : ofRules cells lead (.list (xs ++ ys)) base = .ok a)
    (hv : YieldsAlone cells lead v o) :
    ∃ os os', a.outcomes = os ++ os' ∧
      ofRules cells lead (.list (xs ++ v :: ys)) base =
        .ok { total := a.total + o.delta, outcomes := os ++ o :: os' } := by
  obtain ⟨as, bs, hmore, hless⟩ := exists_arranged_insert xs ys v
  rw [ofRules_eq_ok_iff, outcomesOf_list, hless] at h
  obtain ⟨os, os', hos, hos', heq⟩ := List.mapM_append_eq_ok_iff.mp h.1
  refine ⟨os, os', heq, ofRules_eq_ok_iff.mpr ⟨?_, ?_⟩⟩
  · rw [outcomesOf_list, hmore]
    refine List.mapM_append_eq_ok_iff.mpr ⟨os, o :: os', hos, ?_, rfl⟩
    exact List.mapM_cons_eq_ok_iff.mpr ⟨o, os', yieldsAlone_iff.mp hv, hos', rfl⟩
  · rw [h.2, heq]
    simp only [List.map_append, List.map_cons, List.sum_append, List.sum_cons]
    omega

/-- A payload taken out of a list takes its own outcome and its own points along. -/
theorem exists_ofRules_erase (h : ofRules cells lead (.list (xs ++ v :: ys)) base = .ok a) :
    ∃ os o os', a.outcomes = os ++ o :: os' ∧ YieldsAlone cells lead v o ∧
      ofRules cells lead (.list (xs ++ ys)) base =
        .ok { total := a.total - o.delta, outcomes := os ++ os' } := by
  obtain ⟨as, bs, hmore, hless⟩ := exists_arranged_insert xs ys v
  rw [ofRules_eq_ok_iff, outcomesOf_list, hmore] at h
  obtain ⟨os, rest, hos, hrest, heq⟩ := List.mapM_append_eq_ok_iff.mp h.1
  obtain ⟨o, os', ho, hos', rfl⟩ := List.mapM_cons_eq_ok_iff.mp hrest
  refine ⟨os, o, os', heq, yieldsAlone_iff.mpr ho, ofRules_eq_ok_iff.mpr ⟨?_, ?_⟩⟩
  · rw [outcomesOf_list, hless]
    exact List.mapM_append_eq_ok_iff.mpr ⟨os, os', hos, hos', rfl⟩
  · rw [h.2, heq]
    simp only [List.map_append, List.map_cons, List.sum_append, List.sum_cons]
    omega

/-! ## Another order -/

/-- The adjustments are those of the rules, in the order of the rules. -/
theorem exists_adjustments_eq (h : ofRules cells lead (.list vs) base = .ok a) :
    ∃ os, (rulesInOrder vs).mapM (alone cells (rootOf cells lead)) = .ok os ∧
      a.adjustments = os.filterMap Outcome.adjustment? := by
  rw [ofRules_eq_ok_iff, outcomesOf_list] at h
  obtain ⟨us, os, hus, hos, heq⟩ := List.mapM_append_eq_ok_iff.mp h.1
  refine ⟨os, hos, ?_⟩
  have hidle : us.filterMap Outcome.adjustment? = [] := by
    rw [List.filterMap_eq_nil_iff]
    intro o ho
    obtain ⟨v, hv, ho⟩ := (List.mapM_eq_ok_iff_forall₂.mp hus).flip.exists_mem_of_mem ho
    have ho : alone cells (rootOf cells lead) v = .ok o := ho
    rw [alone_of_noRule (isRule_of_mem_nonRules hv)] at ho
    exact Outcome.isIdle_iff.mp (.inl ⟨_, verdict_of_malformed ho⟩)
  rw [adjustments, heq, List.filterMap_append, hidle, List.nil_append]

/-- A list in another order has the same outcomes in another order. -/
theorem exists_ofRules_perm (h : ofRules cells lead (.list vs) base = .ok a) (hperm : ws.Perm vs) :
    ∃ b, ofRules cells lead (.list ws) base = .ok b ∧ b.outcomes.Perm a.outcomes ∧
      b.total = a.total := by
  have hplaces : (arranged ws).Perm (arranged vs) :=
    ((arranged_perm ws).trans hperm).trans (arranged_perm vs).symm
  obtain ⟨houtcomes, htotal⟩ := ofRules_list_eq_ok_iff.mp h
  obtain ⟨os, hos, hperm⟩ := List.perm_comp_forall₂ hplaces houtcomes
  refine ⟨⟨a.total, os⟩, ofRules_list_eq_ok_iff.mpr ⟨hos, ?_⟩, hperm, rfl⟩
  rw [htotal]
  exact congrArg (base + ·) (hperm.map Outcome.delta).sum_eq.symm

/-- Rules that claim places of their own are adjusted for in one order, however they are listed. -/
theorem adjustments_eq_of_perm {b : Application} (ha : ofRules cells lead (.list vs) base = .ok a)
    (hb : ofRules cells lead (.list ws) base = .ok b) (hperm : ws.Perm vs)
    (hdistinct : (vs.filter isRule).Pairwise fun v w => orderOf v ≠ orderOf w) :
    b.adjustments = a.adjustments := by
  have hrules : rulesInOrder ws = rulesInOrder vs :=
    (isStableSort_rulesInOrder vs).eq_of_perm (isStableSort_rulesInOrder ws)
      (hperm.filter isRule) hdistinct
  obtain ⟨os, hos, ha⟩ := exists_adjustments_eq ha
  obtain ⟨os', hos', hb⟩ := exists_adjustments_eq hb
  rw [hrules, hos] at hos'
  rw [ha, hb, Except.ok.inj hos']

/-! ## All together -/

/-- Applying a list of payloads leaves no room for one of them to touch another.  The outcomes are
one for each payload, of what is no rule as it was given and then of the rules in ascending order
with ties as they were given, and each is the outcome that its payload has alone.  So an idle
payload put in or taken out shows at its own place only, and another order of the list shows in the
order of the adjustments at most, and there only if two rules claim one place. -/
theorem ofRules_independent (h : ofRules cells lead (.list vs) base = .ok a) :
    (∃ rules, IsStableSort orderOf (vs.filter isRule) rules ∧
      List.Forall₂ (YieldsAlone cells lead) ((vs.filter fun v => !isRule v) ++ rules) a.outcomes) ∧
    a.outcomes.length = vs.length ∧
    a.total = base + (a.adjustments.map Adjustment.delta).sum ∧
    (∀ xs v ys o, vs = xs ++ ys → YieldsAlone cells lead v o → o.IsIdle →
      ∃ os os' b, ofRules cells lead (.list (xs ++ v :: ys)) base = .ok b ∧
        a.outcomes = os ++ os' ∧ b.outcomes = os ++ o :: os' ∧
        b.total = a.total ∧ b.adjustments = a.adjustments) ∧
    (∀ xs v ys o, vs = xs ++ v :: ys → YieldsAlone cells lead v o → o.IsIdle →
      ∃ os os' b, ofRules cells lead (.list (xs ++ ys)) base = .ok b ∧
        a.outcomes = os ++ o :: os' ∧ b.outcomes = os ++ os' ∧
        b.total = a.total ∧ b.adjustments = a.adjustments) ∧
    ∀ ws, ws.Perm vs → ∃ b, ofRules cells lead (.list ws) base = .ok b ∧ b.total = a.total ∧
      ((vs.filter isRule).Pairwise (fun v w => orderOf v ≠ orderOf w) →
        b.adjustments = a.adjustments) := by
  refine ⟨⟨rulesInOrder vs, isStableSort_rulesInOrder vs, ?_⟩, length_outcomes h, total_eq h,
    ?_, ?_, ?_⟩
  · exact (ofRules_list_eq_ok_iff.mp h).1.imp fun v o ho => yieldsAlone_iff.mpr ho
  · rintro xs v ys o rfl hv hidle
    rw [Outcome.isIdle_iff] at hidle
    obtain ⟨os, os', heq, hb⟩ := exists_ofRules_insert h hv
    refine ⟨os, os', _, hb, heq, rfl, ?_, ?_⟩
    · simp [Outcome.delta_eq_zero hidle]
    · simp [adjustments, heq, hidle]
  · rintro xs v ys o rfl hv hidle
    rw [Outcome.isIdle_iff] at hidle
    obtain ⟨os, o', os', heq, hv', hb⟩ := exists_ofRules_erase h
    obtain rfl : o = o' := by
      rw [yieldsAlone_iff] at hv hv'
      exact Except.ok.inj (hv.symm.trans hv')
    refine ⟨os, os', _, hb, heq, rfl, ?_, ?_⟩
    · simp [Outcome.delta_eq_zero hidle]
    · simp [adjustments, heq, hidle]
  · intro ws hperm
    obtain ⟨b, hb, -, htotal⟩ := exists_ofRules_perm h hperm
    exact ⟨b, hb, htotal, adjustments_eq_of_perm h hb hperm⟩

/-- Two rules in the wrong order around a payload that is none. -/
def threePayloads : List Value :=
  [textRule "second" 2 "email" "a@b.io" 25, .int 5, textRule "first" 1 "email" "c@d.io" 3]

theorem ofRules_threePayloads :
    ofRules [] (.map [(.text "email", .text "a@b.io")]) (.list threePayloads) 50 =
      .ok ⟨75, [⟨none, .skipped .invalidRule⟩, ⟨some "first", .notMatched⟩,
        ⟨some "second", .applied ⟨"a@b.io", 25⟩⟩]⟩ := by
  have harranged : arranged threePayloads =
      [.int 5, textRule "first" 1 "email" "c@d.io" 3, textRule "second" 2 "email" "a@b.io" 25] := by
    have hsort : rulesInOrder threePayloads =
        [textRule "first" 1 "email" "c@d.io" 3, textRule "second" 2 "email" "a@b.io" 25] := by
      have hfirst : orderOf (textRule "first" 1 "email" "c@d.io" 3) = 1 := rfl
      have hsecond : orderOf (textRule "second" 2 "email" "a@b.io" 25) = 2 := rfl
      have hrules : threePayloads.filter isRule =
          [textRule "second" 2 "email" "a@b.io" 25, textRule "first" 1 "email" "c@d.io" 3] := rfl
      simp [rulesInOrder, hrules, List.mergeSort, List.MergeSort.Internal.splitInTwo, hfirst,
        hsecond]
    rw [arranged, hsort]
    rfl
  refine ofRules_list_eq_ok_iff.mpr ⟨?_, by decide⟩
  rw [harranged]
  exact .cons (by decide +kernel) (.cons (by decide +kernel) (.cons (by decide +kernel) .nil))

/-- The payloads in the opposite order come to the same. -/
theorem ofRules_independent_threePayloads :
    ∃ a b, ofRules [] (.map [(.text "email", .text "a@b.io")]) (.list threePayloads) 50 = .ok a ∧
      ofRules [] (.map [(.text "email", .text "a@b.io")]) (.list threePayloads.reverse) 50 = .ok b ∧
      a.total = 75 ∧ b.total = 75 ∧ b.adjustments = [⟨"a@b.io", 25⟩] := by
  obtain ⟨-, -, -, -, -, hperm⟩ := ofRules_independent ofRules_threePayloads
  obtain ⟨b, hb, htotal, hadjustments⟩ := hperm _ (List.reverse_perm _)
  have hdistinct : (threePayloads.filter isRule).Pairwise fun v w => orderOf v ≠ orderOf w := by
    decide +kernel
  exact ⟨_, b, ofRules_threePayloads, hb, rfl, htotal, (hadjustments hdistinct).trans rfl⟩

end Qualify.Application
