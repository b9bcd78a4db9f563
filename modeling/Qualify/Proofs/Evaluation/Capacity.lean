import Qualify.Proofs.BaseScore.Extremes
import Qualify.Proofs.Evaluation.Marker

/-!
# Which scorecards can score every lead

A scorecard is accepted whatever the size of its numbers, but totals can be turned into scores only
up to a number of digits.  So an accepted scorecard scores every lead exactly when its numbers, and
the totals of the greatest and the least lead, keep within these digits
(`Engine.evaluate_completes_iff`).
-/

namespace Qualify.Engine

variable {e : Engine} {cells : Cells} {lead config : Value} {c : Scorecard} {b : BaseScore}

/-- Without rules, the total is the base score. -/
theorem applied_noRules : applied cells lead (.list []) b = .ok ⟨b.score, []⟩ := by
  unfold applied
  split
  · rfl
  · have hnone : Application.arranged [] = [] := List.perm_nil.mp (Application.arranged_perm [])
    refine Application.ofRules_list_eq_ok_iff.mpr ⟨?_, by simp⟩
    rw [hnone]
    exact .nil

/-- A base score is a score. -/
theorem clampScore_score (hb : BaseScore.ofValue e.tables cells lead c = .ok b) :
    clampScore b.score = .ok b.score := by
  have hsum := (clampScore_eq_ok_iff.mp (BaseScore.clampScore_total hb)).2
  have hprecision : 100 < tenTo Decimal.precision := by decide
  exact clampScore_eq_ok_iff.mpr ⟨by omega, by omega⟩

/-- Without rules, an evaluation goes through as soon as there is a base score. -/
theorem exists_completes_noRules_iff (hconfig : Scorecard.ofValue? config = some c) :
    (∃ b, e.Completes cells lead c (.list []) b (e.evaluate cells lead config (.list []))) ↔
      ∃ b, BaseScore.ofValue e.tables cells lead c = .ok b := by
  constructor
  · rintro ⟨b, h⟩
    exact ⟨b, h.base⟩
  · rintro ⟨b, hb⟩
    obtain ⟨v, hassess⟩ : ∃ v, e.assess cells lead c (.list []) = .ok v := by
      rw [assess_eq, hb, Except.ok_bind, applied_noRules, Except.ok_bind, conclude,
        clampScore_score hb]
      exact ⟨_, rfl⟩
    have hevaluate : e.evaluate cells lead config (.list []) = v := by
      rw [evaluate, hconfig]
      simp only [hassess]
    rw [hevaluate]
    exact assess_eq_ok_iff.mp hassess

/-- An accepted scorecard scores every lead made of plain data exactly when its numbers are worth
points and those of the greatest and the least lead have few enough digits. -/
theorem evaluate_completes_iff (e : Engine) {es : List (Value × Value)}
    (hconfig : Scorecard.ofValue? (.map es) = some c) :
    (∀ entries : List (String × Json), ∃ b, e.Completes [] (Json.object entries).toValue c
      (.list []) b (e.evaluate [] (Json.object entries).toValue (.map es) (.list []))) ↔
      c.IsScorable := by
  simp only [exists_completes_noRules_iff hconfig]
  constructor
  · intro h
    have hprobes : ∀ p : Probe, ∃ b, BaseScore.ofLead e.tables p.lead c = .ok b := by
      intro p
      obtain ⟨b, hb⟩ := h p.entries
      rw [BaseScore.ofValue, p.ofValue?_eq] at hb
      exact ⟨b, hb⟩
    exact Probe.isScorable_of_forall (Scorecard.isNameable_companySizes hconfig)
      (Scorecard.isNameable_industries hconfig) hprobes
  · intro h entries
    obtain ⟨l, hl, hplain⟩ := Lead.exists_isPlain_ofObject entries
    rw [BaseScore.ofValue, hl]
    exact BaseScore.exists_ofLead hplain h e.tables

/-- A scorecard with one weight, and a lead that takes all of it. -/
def configWith (weight : Binary64) : Value :=
  .map [(.text "weights", .map [(.text "jobRole", .float weight)])]

def executive : List (String × Json) := [("fields", .object [("title", .text "CEO")])]

/-- Thirty points can be given to every lead. -/
theorem evaluate_completes_iff_thirty :
    ∃ c, Scorecard.ofValue? (configWith (.ofRatio false 30 1)) = some c ∧
      ∀ entries : List (String × Json), ∃ b, Engine.Completes {} [] (Json.object entries).toValue c
        (.list []) b (Engine.evaluate {} [] (Json.object entries).toValue
          (configWith (.ofRatio false 30 1)) (.list [])) := by
  let c := (Scorecard.ofValue? (configWith (.ofRatio false 30 1))).get (by decide +kernel)
  have hconfig : Scorecard.ofValue? (configWith (.ofRatio false 30 1)) = some c :=
    (Option.some_get _).symm
  have hweights : c.weights.map (fun w => [w.jobRole, w.urgency, w.engagement]) =
      some [.finite false (15 * 2 ^ 49) (-48), .zero, .zero] := by decide +kernel
  have hpenalties : c.penalties = none := by decide +kernel
  have henrichment : c.enrichment = none := by decide +kernel
  refine ⟨c, hconfig, (evaluate_completes_iff {} hconfig).mpr (Scorecard.isScorable_of_lt ?_)⟩
  rintro x hx
  cases hx with
  | weight hw hx =>
      rw [hw, Option.map_some, Option.some.injEq] at hweights
      rw [hweights] at hx
      simp only [List.mem_cons, List.not_mem_nil, or_false, or_self] at hx
      rcases hx with rfl | rfl
      · exact ⟨rfl, by norm_num [Binary64.magnitude]⟩
      · exact ⟨rfl, by norm_num [Binary64.magnitude, Binary64.zero]⟩
  | penalty hp hx => cases hp.symm.trans hpenalties
  | companySize hx =>
      rw [Scorecard.companySizes, henrichment] at hx
      cases hx
  | industry hx =>
      rw [Scorecard.industries, henrichment] at hx
      cases hx

/-- A weight of `10 ^ 28` is accepted, and cannot be given to a lead that earns it. -/
theorem evaluate_executive_degraded :
    (Scorecard.ofValue? (configWith (.ofRatio false (tenTo 28) 1))).isSome ∧
      Engine.evaluate {} [] (Json.object executive).toValue
          (configWith (.ofRatio false (tenTo 28) 1)) (.list []) =
        .degraded (.arithmetic .invalidOperation) := by
  decide +kernel

end Qualify.Engine
