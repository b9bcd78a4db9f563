import Mathlib.Algebra.Ring.Int.Defs
import Qualify.Application
import Qualify.Proofs.Except
import Qualify.Proofs.StableOrder

/-!
# What applying rules does

Applying a list of payloads sorts them out in one pass and runs the rules among them in another.
`outcomesOf_list` says what both passes come to: the outcomes are those that the payloads have
alone, taken in the order `arranged`, and applying fails where the first of them does.  Everything
else about lists of rules follows from that equation, since how a list is arranged and what one
payload does no longer meet.
-/

namespace Qualify

namespace Outcome

variable {o : Outcome}

/-- The rule was skipped or did not match. -/
def IsIdle (o : Outcome) : Prop := (∃ r, o.verdict = .skipped r) ∨ o.verdict = .notMatched

theorem isIdle_iff : o.IsIdle ↔ o.adjustment? = none := by
  unfold adjustment? IsIdle
  cases o.verdict with
  | applied a => simp
  | notMatched => simp
  | skipped r => simp

theorem delta_eq_zero (h : o.adjustment? = none) : o.delta = 0 := by simp [delta, h]

/-- The points of all outcomes are those of the adjustments among them. -/
theorem sum_delta (os : List Outcome) :
    (os.map delta).sum = ((os.filterMap adjustment?).map Adjustment.delta).sum := by
  induction os with
  | nil => rfl
  | cons o os ih =>
      rw [List.map_cons, List.sum_cons, List.filterMap_cons, ih]
      cases h : o.adjustment? with
      | none => simp [delta_eq_zero h]
      | some a => simp [delta, h]

end Outcome

namespace Application

/-- The rule that a payload is, if it is one. -/
def ruleOf? (v : Value) : Option Rule := (Check.rule v).result?

def isRule (v : Value) : Bool := (ruleOf? v).isSome

/-- The place of a payload among the rules. -/
def orderOf (v : Value) : Int := ((ruleOf? v).map Rule.order).getD 0

/-- The outcome of a payload without regard to any other. -/
def alone (cells : Cells) (root v : Value) : Except Failure Outcome :=
  match ruleOf? v with
  | some r => .ok (r.outcome cells root)
  | none => malformed v

/-- The payloads that are no rules, as they were given. -/
def nonRules (vs : List Value) : List Value := vs.filter fun v => !isRule v

/-- The payloads that are rules, in ascending order. -/
def rulesInOrder (vs : List Value) : List Value :=
  (vs.filter isRule).mergeSort fun v w => orderOf v ≤ orderOf w

/-- The payloads in the order of their outcomes. -/
def arranged (vs : List Value) : List Value := nonRules vs ++ rulesInOrder vs

variable {cells : Cells} {root v : Value} {vs : List Value}

theorem ruleOf?_eq_none (h : isRule v = false) : ruleOf? v = none := by
  simpa [isRule] using h

theorem alone_of_rule {r : Rule} (h : ruleOf? v = some r) :
    alone cells root v = .ok (r.outcome cells root) := by simp [alone, h]

theorem alone_of_noRule (h : isRule v = false) : alone cells root v = malformed v := by
  simp [alone, ruleOf?_eq_none h]

/-- What is no rule is skipped as such, under the text of what stands where its name should be. -/
theorem malformed_eq_ok_iff {o : Outcome} :
    malformed v = .ok o ↔
      ∃ name : Option String, o = ⟨name, .skipped .invalidRule⟩ ∧
        if ((v.get? "id").getD .null).isNull then name = none
        else ∃ s, ((v.get? "id").getD .null).toText = .ok s ∧ name = some s := by
  unfold malformed
  dsimp only
  generalize (v.get? "id").getD .null = id
  cases id.isNull with
  | true =>
      simp only [if_true, Except.bind_eq_ok_iff, Except.pure_eq_ok_iff]
      constructor
      · rintro ⟨_, rfl, rfl⟩
        exact ⟨none, rfl, rfl⟩
      · rintro ⟨_, rfl, rfl⟩
        exact ⟨none, rfl, rfl⟩
  | false =>
      simp only [Bool.false_eq_true, if_false, Except.bind_eq_ok_iff, Except.map_eq_ok_iff,
        Except.pure_eq_ok_iff]
      constructor
      · rintro ⟨_, ⟨s, hs, rfl⟩, rfl⟩
        exact ⟨some s, rfl, s, hs, rfl⟩
      · rintro ⟨_, rfl, s, hs, rfl⟩
        exact ⟨some s, ⟨s, hs, rfl⟩, rfl⟩

theorem verdict_of_malformed {o : Outcome} (h : malformed v = .ok o) :
    o.verdict = .skipped .invalidRule := by
  obtain ⟨name, rfl, -⟩ := malformed_eq_ok_iff.mp h
  rfl

theorem isRule_of_mem_nonRules (h : v ∈ nonRules vs) : isRule v = false := by
  simpa using (List.mem_filter.mp h).2

theorem isStableSort_rulesInOrder (vs : List Value) :
    IsStableSort orderOf (vs.filter isRule) (rulesInOrder vs) :=
  .mergeSort orderOf _

theorem arranged_perm (vs : List Value) : (arranged vs).Perm vs := by
  refine (List.Perm.append_left _ (isStableSort_rulesInOrder vs).perm).trans ?_
  exact List.perm_append_comm.trans (List.filter_append_perm isRule vs)

/-- Rules in ascending order stay as they are. -/
theorem arranged_of_pairwise (hrules : ∀ v ∈ vs, isRule v = true)
    (hpairwise : vs.Pairwise fun v w => orderOf v ≤ orderOf w) : arranged vs = vs := by
  have hfilter : vs.filter isRule = vs := List.filter_eq_self.mpr hrules
  have hnone : nonRules vs = [] := by
    refine List.filter_eq_nil_iff.mpr fun v hv => ?_
    rw [hrules v hv]
    exact Bool.false_ne_true
  rw [arranged, hnone, List.nil_append, rulesInOrder, hfilter]
  exact List.mergeSort_of_pairwise (hpairwise.imp fun h => decide_eq_true h)

/-! ## The two passes -/

/-- Sorting out keeps the rules and takes down the outcomes of all other payloads. -/
theorem sortOut_eq (vs : List Value) :
    sortOut vs = do
      let os ← (nonRules vs).mapM malformed
      return (os, vs.filterMap ruleOf?) := by
  induction vs with
  | nil => rfl
  | cons v vs ih =>
      cases h : Check.rule v with
      | valid r =>
          have hr : ruleOf? v = some r := by simp [ruleOf?, h, Checked.result?]
          have hothers : nonRules (v :: vs) = nonRules vs :=
            List.filter_cons_of_neg (by simp [isRule, hr])
          rw [hothers, List.filterMap_cons_some hr, sortOut, h, ih]
          cases (nonRules vs).mapM malformed with
          | error f => rfl
          | ok os => rfl
      | invalid ps =>
          have hr : ruleOf? v = none := by simp [ruleOf?, h, Checked.result?]
          have hothers : nonRules (v :: vs) = v :: nonRules vs :=
            List.filter_cons_of_pos (by simp [isRule, hr])
          rw [hothers, List.filterMap_cons_none hr, sortOut, h, ih, List.mapM_cons]
          cases malformed v with
          | error f => rfl
          | ok o =>
              cases (nonRules vs).mapM malformed with
              | error f => rfl
              | ok os => rfl

/-- Reading rules and putting them in order may change places. -/
theorem inOrder_filterMap (vs : List Value) :
    (inOrder (vs.filterMap ruleOf?)).map some = (rulesInOrder vs).map ruleOf? := by
  let le : Option Rule → Option Rule → Bool :=
    fun r s => ((r.map Rule.order).getD 0 : Int) ≤ (s.map Rule.order).getD 0
  have hread : (vs.filter isRule).map ruleOf? = (vs.filterMap ruleOf?).map some := by
    induction vs with
    | nil => rfl
    | cons v vs ih =>
        cases h : ruleOf? v with
        | none => simp [isRule, h, ih]
        | some r => simp [isRule, h, ih]
  calc (inOrder (vs.filterMap ruleOf?)).map some
      = ((vs.filterMap ruleOf?).map some).mergeSort le := List.map_mergeSort fun r _ s _ => rfl
    _ = ((vs.filter isRule).map ruleOf?).mergeSort le := by rw [hread]
    _ = _ := by
        symm
        exact List.map_mergeSort fun v _ w _ => rfl

/-- What is a rule never fails alone. -/
theorem mapM_alone_of_map_eq {rs : List Rule} (h : rs.map some = vs.map ruleOf?) :
    vs.mapM (alone cells root) = .ok (rs.map fun r => r.outcome cells root) := by
  induction vs generalizing rs with
  | nil =>
      rw [List.map_nil, List.map_eq_nil_iff] at h
      rw [h]
      rfl
  | cons v vs ih =>
      cases rs with
      | nil => cases h
      | cons r rs =>
          rw [List.map_cons, List.map_cons, List.cons.injEq] at h
          rw [List.mapM_cons, alone_of_rule h.1.symm, Except.ok_bind, ih h.2]
          rfl

/-- The outcomes are those that the items have alone, in order. -/
theorem outcomesOf_of_items {rules : Value} (hitems : items rules = .ok vs) :
    outcomesOf cells root rules = (arranged vs).mapM (alone cells root) := by
  have hothers : (nonRules vs).mapM malformed = (nonRules vs).mapM (alone cells root) := by
    have h : ∀ v ∈ nonRules vs, malformed v = alone cells root v :=
      fun v hv => (alone_of_noRule (isRule_of_mem_nonRules hv)).symm
    generalize nonRules vs = ws at h
    induction ws with
    | nil => rfl
    | cons w ws ih =>
        rw [List.forall_mem_cons] at h
        rw [List.mapM_cons, List.mapM_cons, h.1, ih h.2]
  rw [outcomesOf, hitems, Except.ok_bind, sortOut_eq, arranged, List.mapM_append, hothers,
    mapM_alone_of_map_eq (inOrder_filterMap vs), bind_assoc]
  rfl

theorem outcomesOf_list (cells : Cells) (root : Value) (vs : List Value) :
    outcomesOf cells root (.list vs) = (arranged vs).mapM (alone cells root) := by
  apply outcomesOf_of_items
  cases vs with
  | nil => rfl
  | cons v vs => rfl

/-! ## Lists of payloads -/

/-- Rules apply exactly when they have outcomes, whose points then make up the total. -/
theorem ofRules_eq_ok_iff {lead rules : Value} {base : Int} {a : Application} :
    ofRules cells lead rules base = .ok a ↔
      outcomesOf cells (rootOf cells lead) rules = .ok a.outcomes ∧
        a.total = base + (a.outcomes.map Outcome.delta).sum := by
  rw [ofRules, Except.bind_eq_ok_iff]
  constructor
  · rintro ⟨os, hos, h⟩
    cases Except.pure_eq_ok_iff.mp h
    exact ⟨hos, by rw [List.sum_eq_foldl]⟩
  · rintro ⟨hos, htotal⟩
    refine ⟨_, hos, Except.pure_eq_ok_iff.mpr ?_⟩
    rw [← List.sum_eq_foldl, ← htotal]

/-- The total is the base score with the points of every adjustment. -/
theorem total_eq {lead rules : Value} {base : Int} {a : Application}
    (h : ofRules cells lead rules base = .ok a) :
    a.total = base + (a.adjustments.map Adjustment.delta).sum := by
  rw [(ofRules_eq_ok_iff.mp h).2, Outcome.sum_delta]
  rfl

/-- A list of payloads applies exactly when each payload has an outcome alone. -/
theorem ofRules_list_eq_ok_iff {lead : Value} {base : Int} {a : Application} :
    ofRules cells lead (.list vs) base = .ok a ↔
      List.Forall₂ (fun v o => alone cells (rootOf cells lead) v = .ok o) (arranged vs) a.outcomes ∧
        a.total = base + (a.outcomes.map Outcome.delta).sum := by
  rw [ofRules_eq_ok_iff, outcomesOf_list, List.mapM_eq_ok_iff_forall₂]

/-- There is one outcome for each payload. -/
theorem length_outcomes {lead : Value} {base : Int} {a : Application}
    (h : ofRules cells lead (.list vs) base = .ok a) : a.outcomes.length = vs.length :=
  (ofRules_list_eq_ok_iff.mp h).1.length_eq.symm.trans (arranged_perm vs).length_eq

/-- A list of payloads applies as soon as each payload has some outcome alone. -/
theorem exists_ofRules_list_iff {lead : Value} {base : Int} :
    (∃ a, ofRules cells lead (.list vs) base = .ok a) ↔
      ∀ v ∈ vs, ∃ o, alone cells (rootOf cells lead) v = .ok o := by
  have hmem : (∀ v ∈ vs, ∃ o, alone cells (rootOf cells lead) v = .ok o) ↔
      ∀ v ∈ arranged vs, ∃ o, alone cells (rootOf cells lead) v = .ok o :=
    forall_congr' fun v => by rw [(arranged_perm vs).mem_iff]
  rw [hmem, ← List.exists_forall₂_iff]
  constructor
  · rintro ⟨a, h⟩
    exact ⟨a.outcomes, (ofRules_list_eq_ok_iff.mp h).1⟩
  · rintro ⟨os, hos⟩
    exact ⟨⟨base + (os.map Outcome.delta).sum, os⟩, ofRules_list_eq_ok_iff.mpr ⟨hos, rfl⟩⟩

/-- A rule as data that adds points to leads with a given text in a field. -/
def textRule (id : String) (order : Int) (field text : String) (points : Int) : Value :=
  .map [(.text "id", .text id), (.text "type", .text "IF_THEN"), (.text "order", .int order),
    (.text "definition", .map [
      (.text "if", .list [.map [(.text "field", .text field), (.text "op", .text "equals"),
        (.text "value", .text text)]]),
      (.text "then", .map [(.text "adjust", .int points), (.text "reason", .text text)])])]

end Application

end Qualify
