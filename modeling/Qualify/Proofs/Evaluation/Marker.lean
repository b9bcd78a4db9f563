import Qualify.Proofs.Application.Independence
import Qualify.Proofs.Evaluation

/-!
# Which leads go without rules

What is no lead is marked by a tag of its base score, and what bears the tag goes without rules.  A
lead bears it too if it names a tier of that key (`invalidData_mem_tags_iff`), so a scorecard with
such a tier takes the rules from leads that it should only enrich.  For all other leads an
evaluation that does not fail has one outcome for each rule.
-/

namespace Qualify.Engine

open Application (YieldsAlone yieldsAlone_iff arranged arranged_perm ofRules_list_eq_ok_iff
  textRule)

variable {e : Engine} {cells : Cells} {lead config rules : Value} {vs : List Value} {l : Lead}
variable {c : Scorecard} {b : BaseScore} {v : Evaluation}

/-- A lead bears the tag of what is no lead exactly when it names a tier of that key. -/
theorem invalidData_mem_tags_iff (hlead : Lead.ofValue? cells lead = some l)
    (hb : BaseScore.ofValue e.tables cells lead c = .ok b) :
    Tag.invalidData ∈ b.tags ↔ l.IsEnrichedBy c Tag.invalidData := by
  rw [BaseScore.ofValue, hlead] at hb
  exact BaseScore.mem_tags_ofLead hb (by decide)

/-- An evaluation under a scorecard that does not degrade goes through. -/
theorem exists_completes (hconfig : Scorecard.ofValue? config = some c)
    (hdegraded : ∀ f, e.evaluate cells lead config rules ≠ .degraded f) :
    ∃ b, e.Completes cells lead c rules b (e.evaluate cells lead config rules) := by
  rw [← assess_eq_ok_iff]
  unfold evaluate at hdegraded ⊢
  rw [hconfig] at hdegraded ⊢
  cases hassess : e.assess cells lead c rules with
  | error f =>
      refine absurd ?_ (hdegraded f)
      simp only [hassess]
  | ok v => simp only [hassess]

theorem outcomes_of_mem_tags (h : e.Completes cells lead c rules b v)
    (htag : Tag.invalidData ∈ b.tags) : v.outcomes = [] := by
  obtain ⟨total, ha⟩ := h.outcomes
  rw [applied, if_pos htag, Except.ok.injEq, Application.mk.injEq] at ha
  exact ha.2.symm

theorem outcomes_of_notMem_tags (h : e.Completes cells lead c (.list vs) b v)
    (htag : Tag.invalidData ∉ b.tags) :
    List.Forall₂ (YieldsAlone cells lead) (arranged vs) v.outcomes := by
  obtain ⟨total, ha⟩ := h.outcomes
  rw [applied, if_neg htag] at ha
  exact (ofRules_list_eq_ok_iff.mp ha).1.imp fun v o ho => yieldsAlone_iff.mpr ho

/-- An evaluation of a lead that does not degrade has one outcome for each rule, and the one that
the rule has alone, exactly when there are no rules or the lead names no tier under the key that
marks what is no lead. -/
theorem evaluate_outcomes_iff (hlead : Lead.ofValue? cells lead = some l)
    (hconfig : Scorecard.ofValue? config = some c)
    (hdegraded : ∀ f, e.evaluate cells lead config (.list vs) ≠ .degraded f) :
    ((e.evaluate cells lead config (.list vs)).outcomes.length = vs.length ↔
      vs = [] ∨ ¬ l.IsEnrichedBy c Tag.invalidData) ∧
    ((∃ ws, ws.Perm vs ∧ List.Forall₂ (YieldsAlone cells lead) ws
        (e.evaluate cells lead config (.list vs)).outcomes) ↔
      vs = [] ∨ ¬ l.IsEnrichedBy c Tag.invalidData) := by
  obtain ⟨b, h⟩ := exists_completes hconfig hdegraded
  generalize e.evaluate cells lead config (.list vs) = v at h
  rw [← invalidData_mem_tags_iff hlead h.base]
  have hlength : (∃ ws, ws.Perm vs ∧ List.Forall₂ (YieldsAlone cells lead) ws v.outcomes) →
      v.outcomes.length = vs.length := by
    rintro ⟨ws, hperm, houtcomes⟩
    exact houtcomes.length_eq.symm.trans hperm.length_eq
  have hbare : v.outcomes.length = vs.length → vs = [] ∨ Tag.invalidData ∉ b.tags := by
    intro hlen
    by_cases htag : Tag.invalidData ∈ b.tags
    · rw [outcomes_of_mem_tags h htag] at hlen
      exact .inl (List.length_eq_zero_iff.mp hlen.symm)
    · exact .inr htag
  have hfull : vs = [] ∨ Tag.invalidData ∉ b.tags →
      ∃ ws, ws.Perm vs ∧ List.Forall₂ (YieldsAlone cells lead) ws v.outcomes := by
    intro hcond
    by_cases htag : Tag.invalidData ∈ b.tags
    · obtain rfl : vs = [] := hcond.resolve_right (not_not_intro htag)
      rw [outcomes_of_mem_tags h htag]
      exact ⟨[], .rfl, .nil⟩
    · exact ⟨arranged vs, arranged_perm vs, outcomes_of_notMem_tags h htag⟩
  exact ⟨⟨hbare, fun hcond => hlength (hfull hcond)⟩, fun hws => hbare (hlength hws), hfull⟩

/-- A lead of an industry. -/
def leadOf (industry : String) : Value :=
  .map [(.text "fields", .map [(.text "industry", .text industry)])]

/-- A scorecard with a tier for an industry. -/
def configFor (industry : String) : Value :=
  .map [(.text "enrichment", .map [(.text "industry", .map [(.text industry, .int 5)])])]

/-- A tier of another key leaves the rules in force. -/
theorem evaluate_outcomes_iff_saas :
    (Engine.evaluate {} [] (leadOf "saas") (configFor "saas")
      (.list [textRule "boost" 1 "fields.industry" "saas" 10])).outcomes.length = 1 := by
  let c := (Scorecard.ofValue? (configFor "saas")).get (by decide +kernel)
  have hconfig : Scorecard.ofValue? (configFor "saas") = some c := (Option.some_get _).symm
  have hbase : BaseScore.ofValue {} [] (leadOf "saas") c =
      .ok ⟨5, { enrichment := 5 }, [Tag.enriched, "saas"], ["Industry 'saas' (+5)"]⟩ := by
    decide +kernel
  have hrule : YieldsAlone [] (leadOf "saas") (textRule "boost" 1 "fields.industry" "saas" 10)
      ⟨some "boost", .applied ⟨"saas", 10⟩⟩ := yieldsAlone_iff.mpr (by decide +kernel)
  have hassess : ∃ v, Engine.assess {} [] (leadOf "saas") c
      (.list [textRule "boost" 1 "fields.industry" "saas" 10]) = .ok v ∧ v.score = 15 := by
    refine ⟨⟨15, .low, [Tag.enriched, "saas"], ["Industry 'saas' (+5)"], { enrichment := 5 }, 5,
      [⟨some "boost", .applied ⟨"saas", 10⟩⟩]⟩, ?_, rfl⟩
    rw [assess_eq, hbase, Except.ok_bind, applied, if_neg (by decide), hrule, Except.ok_bind]
    decide +kernel
  refine (evaluate_outcomes_iff rfl hconfig fun f h => ?_).1.mpr (.inr ?_)
  · obtain ⟨v, hv, hscore⟩ := hassess
    rw [evaluate, hconfig] at h
    simp only [hv] at h
    rw [h] at hscore
    cases hscore
  · rw [← invalidData_mem_tags_iff rfl hbase]
    decide

/-- A tier of the key that marks what is no lead puts the rules out of force, although a rule is
there, the lead is one and the scorecard is valid. -/
theorem evaluate_leadOf_invalidData :
    (Lead.ofValue? [] (leadOf "invalid_data")).isSome ∧
      (Scorecard.ofValue? (configFor "invalid_data")).isSome ∧
      Engine.evaluate {} [] (leadOf "invalid_data") (configFor "invalid_data")
          (.list [textRule "boost" 1 "fields.industry" "invalid_data" 10]) =
        { score := 5, tags := [Tag.enriched, Tag.invalidData],
          baseTrace := ["Industry 'invalid_data' (+5)"], components := { enrichment := 5 },
          baseScore := 5, outcomes := [] } := by
  decide +kernel

end Qualify.Engine
