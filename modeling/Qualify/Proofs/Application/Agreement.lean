import Qualify.Proofs.Application.Independence
import Qualify.Proofs.Check.Problems

/-!
# What is said against a payload decides whether it is refused

Remarks on a payload are collected apart from applying it.  Both read the payload in the same two
steps, first the rule and then its definition, so that a payload without remarks is never refused,
and one with remarks is, unless they are on its place only or it is not in use
(`ofRules_refuses`).
-/

namespace Qualify

/-- The payload is refused: it is no rule, or its definition cannot be read. -/
def Outcome.IsRefused (o : Outcome) : Prop :=
  o.verdict = .skipped .invalidRule ∨ ∃ f, o.verdict = .skipped (.invalidDefinition f)

namespace Rule

variable {r : Rule} {cells : Cells} {root : Value}

/-- A rule is refused for its definition only, and only if it is in use. -/
theorem isRefused_outcome_iff :
    (r.outcome cells root).IsRefused ↔ r.enabled ∧ ∀ d, r.readDefinition ≠ .ok d := by
  unfold Outcome.IsRefused outcome verdict
  cases r.enabled with
  | false => simp
  | true =>
      cases r.readDefinition with
      | error f => simp
      | ok d =>
          cases hadjustment : d.adjustment? r.id cells root with
          | error f => simp [hadjustment]
          | ok a? => cases a? <;> simp [hadjustment]

end Rule

namespace Application

variable {cells : Cells} {root lead v : Value} {base : Int} {o : Outcome} {a : Application}

/-- One payload has one outcome, the one that it has alone. -/
theorem exists_outcomes_eq_singleton (h : ofRules cells lead (.list [v]) base = .ok a) :
    ∃ o, a.outcomes = [o] ∧ alone cells (rootOf cells lead) v = .ok o := by
  have hsingle : arranged [v] = [v] := List.perm_singleton.mp (arranged_perm [v])
  obtain ⟨houtcomes, -⟩ := ofRules_list_eq_ok_iff.mp h
  rw [hsingle] at houtcomes
  obtain ⟨o, os, ho, hos, heq⟩ := List.forall₂_cons_left_iff.mp houtcomes
  rw [List.forall₂_nil_left_iff.mp hos] at heq
  exact ⟨o, heq, ho⟩

/-- A payload is refused unless it is a rule that is not in use or has a definition. -/
theorem isRefused_iff_of_alone (h : alone cells root v = .ok o) :
    o.IsRefused ↔ ∀ r, ruleOf? v = some r → r.enabled ∧ ∀ d, r.readDefinition ≠ .ok d := by
  cases hv : ruleOf? v with
  | some r =>
      obtain rfl : r.outcome cells root = o := Except.ok.inj ((alone_of_rule hv).symm.trans h)
      simp [Rule.isRefused_outcome_iff]
  | none =>
      rw [alone_of_noRule (by simp [isRule, hv])] at h
      exact iff_of_true (.inl (verdict_of_malformed h)) fun r hr => absurd hr.symm (Option.some_ne_none r)

/-- Applying one payload agrees with the remarks on it: if there are none it is not refused, and if
there is one on anything but its place then it is, unless it is a rule that is not in use. -/
theorem ofRules_refuses (h : ofRules cells lead (.list [v]) base = .ok a) :
    ∃ o, a.outcomes = [o] ∧ (Rule.remarks v = [] → ¬ o.IsRefused) ∧
      ((∀ r, ruleOf? v = some r → r.enabled) →
        (∃ s ∈ Rule.remarks v, s ≠ "order: must be a non-negative integer") → o.IsRefused) := by
  obtain ⟨o, houtcomes, ho⟩ := exists_outcomes_eq_singleton h
  refine ⟨o, houtcomes, ?_, ?_⟩
  · intro hnone hrefused
    obtain ⟨r, hr, -, d, hd⟩ := Rule.remarks_eq_nil_iff.mp hnone
    have hrule : ruleOf? v = some r := Checked.result?_eq_some_iff.mpr hr
    exact ((isRefused_iff_of_alone ho).mp hrefused r hrule).2 d hd
  · rintro henabled ⟨s, hs, hplace⟩
    refine (isRefused_iff_of_alone ho).mpr fun r hr => ⟨henabled r hr, fun d hd => hplace ?_⟩
    rw [Rule.remarks_of_valid (Checked.result?_eq_some_iff.mp hr)] at hs
    exact Rule.eq_orderRemark_of_mem hd hs

/-- A rule that says nothing of what it looks up. -/
def emptyDefinition : Value :=
  .map [(.text "id", .text "empty"), (.text "type", .text "WEIGHT"), (.text "definition", .map [])]

/-- A rule without remarks is not refused, and one with an empty definition is. -/
theorem ofRules_refuses_emptyDefinition :
    (∃ a o, ofRules [] (.map [(.text "email", .text "a@b.io")])
        (.list [textRule "full" 1 "email" "a@b.io" 25]) 0 = .ok a ∧ a.outcomes = [o] ∧
      ¬ o.IsRefused) ∧
    ∃ a o, ofRules [] (.map []) (.list [emptyDefinition]) 0 = .ok a ∧ a.outcomes = [o] ∧
      o.IsRefused := by
  obtain ⟨a, ha⟩ : ∃ a, ofRules [] (.map [(.text "email", .text "a@b.io")])
      (.list [textRule "full" 1 "email" "a@b.io" 25]) 0 = .ok a :=
    exists_ofRules_list_iff.mpr (List.forall_mem_singleton.mpr ⟨_, alone_of_rule rfl⟩)
  obtain ⟨b, hb⟩ : ∃ b, ofRules [] (.map []) (.list [emptyDefinition]) 0 = .ok b :=
    exists_ofRules_list_iff.mpr (List.forall_mem_singleton.mpr ⟨_, alone_of_rule rfl⟩)
  obtain ⟨o, ho, hnone, -⟩ := ofRules_refuses ha
  obtain ⟨q, hq, -, hsome⟩ := ofRules_refuses hb
  have henabled : ∀ r, ruleOf? emptyDefinition = some r → r.enabled := by
    rintro r hr
    cases hr
    rfl
  have hremark : "definition: Field required" ∈ Rule.remarks emptyDefinition := by decide +kernel
  exact ⟨⟨a, o, ha, ho, hnone (by decide +kernel)⟩, b, q, hb, hq,
    hsome henabled ⟨_, hremark, by decide⟩⟩

end Application

end Qualify
