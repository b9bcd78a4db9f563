import Qualify.Evaluation
import Qualify.Proofs.Application
import Qualify.Proofs.BaseScore

/-!
# How an evaluation ends

An evaluation has a result whatever it is given, and the result is of one of three kinds
(`Engine.evaluate_kind`): there is no scorecard, some stage fails, or all of them go through.  The
second kind is an inductive relation with one constructor for each stage that can fail; the third is
a structure that says where each part of the result comes from.  The two lemmas
`Engine.assess_eq_error_iff` and `Engine.assess_eq_ok_iff` say that neither leaves anything out.
-/

namespace Qualify

/-- An evaluation that says nothing but why there is none. -/
structure Evaluation.Tells (v : Evaluation) (tag : String) (trace : List String) : Prop where
  score : v.score = 0
  band : v.band = .low
  tags : v.tags = [tag]
  trace : v.trace = trace
  adjustments : v.adjustments = []
  outcomes : v.outcomes = []

namespace Engine

variable {e : Engine} {cells : Cells} {lead config rules : Value} {c : Scorecard} {b : BaseScore}
variable {v : Evaluation} {f : Failure}

/-- What the rules come to on top of a base score: nothing if it bears the tag of what is no
lead. -/
def applied (cells : Cells) (lead rules : Value) (b : BaseScore) : Except Failure Application :=
  if Tag.invalidData ∈ b.tags then .ok { total := b.score }
  else Application.ofRules cells lead rules b.score

/-- The evaluation under a scorecard stops with a failure. -/
inductive Stops (e : Engine) (cells : Cells) (lead : Value) (c : Scorecard) (rules : Value) :
    Failure → Prop where
  | baseScore {f : Failure} (h : BaseScore.ofValue e.tables cells lead c = .error f) :
      Stops e cells lead c rules f
  | rules {b : BaseScore} {f : Failure} (hb : BaseScore.ofValue e.tables cells lead c = .ok b)
      (h : applied cells lead rules b = .error f) : Stops e cells lead c rules f
  | clamp {b : BaseScore} {a : Application} {f : Failure}
      (hb : BaseScore.ofValue e.tables cells lead c = .ok b)
      (ha : applied cells lead rules b = .ok a) (h : clampScore a.total = .error f) :
      Stops e cells lead c rules f

/-- The evaluation under a scorecard goes through, from a base score to a result. -/
structure Completes (e : Engine) (cells : Cells) (lead : Value) (c : Scorecard) (rules : Value)
    (b : BaseScore) (v : Evaluation) : Prop where
  base : BaseScore.ofValue e.tables cells lead c = .ok b
  outcomes : ∃ total, applied cells lead rules b = .ok ⟨total, v.outcomes⟩
  components : v.components = b.components
  categories : v.components.entries.map Prod.fst =
    ["jobRole", "urgency", "engagement", "enrichment", "negative"]
  noLead : Lead.ofValue? cells lead = none → ∀ p ∈ v.components.entries, p.2 = 0
  baseScore : v.baseScore = max 0 (min 100 (v.components.entries.map Prod.snd).sum)
  adjustments : v.adjustments = v.outcomes.filterMap Outcome.adjustment?
  digits : (v.baseScore + (v.adjustments.map Adjustment.delta).sum).natAbs <
    tenTo Decimal.precision
  score : v.score = max 0 (min 100 (v.baseScore + (v.adjustments.map Adjustment.delta).sum))
  band : v.band = Band.classify (.ofInt v.score) (c.bands.getD .default)
  tags : v.tags = b.tags
  trace : v.trace = b.trace ++ v.adjustments.map Adjustment.text

/-! ## The stages -/

theorem assess_eq (e : Engine) (cells : Cells) (lead : Value) (c : Scorecard) (rules : Value) :
    e.assess cells lead c rules = (do
      let b ← BaseScore.ofValue e.tables cells lead c
      let a ← applied cells lead rules b
      conclude c b a) := by
  unfold assess appraise
  cases BaseScore.ofValue e.tables cells lead c with
  | error f => rfl
  | ok b =>
      simp only [Except.ok_bind, applied, ← List.contains_iff_mem]
      cases b.tags.contains Tag.invalidData with
      | true => rfl
      | false =>
          simp only [Bool.false_eq_true, if_false]
          cases Application.ofRules cells lead rules b.score with
          | error f => rfl
          | ok a => rfl

/-- The total is the base score with the points of every adjustment, applied or not. -/
theorem total_of_applied {a : Application} (h : applied cells lead rules b = .ok a) :
    a.total = b.score + (a.adjustments.map Adjustment.delta).sum := by
  unfold applied at h
  split at h
  · cases h
    simp [Application.adjustments]
  · exact Application.total_eq h

theorem conclude_eq_ok_iff {a : Application} :
    conclude c b a = .ok v ↔
      clampScore a.total = .ok v.score ∧
        v.band = Band.classify (.ofInt v.score) (c.bands.getD .default) ∧ v.tags = b.tags ∧
        v.baseTrace = b.trace ∧ v.components = b.components ∧ v.baseScore = b.score ∧
        v.outcomes = a.outcomes := by
  unfold conclude
  simp only [Except.bind_eq_ok_iff, Except.pure_eq_ok_iff]
  constructor
  · rintro ⟨score, hscore, rfl⟩
    exact ⟨hscore, rfl, rfl, rfl, rfl, rfl, rfl⟩
  · rintro ⟨hscore, hband, htags, htrace, hcomponents, hbase, houtcomes⟩
    refine ⟨_, hscore, ?_⟩
    rw [← hband, ← htags, ← htrace, ← hcomponents, ← hbase, ← houtcomes]

theorem conclude_eq_error_iff {a : Application} :
    conclude c b a = .error f ↔ clampScore a.total = .error f := by
  unfold conclude
  rw [Except.bind_eq_error_iff]
  refine or_iff_left ?_
  rintro ⟨s, -, h⟩
  exact Except.pure_ne_error h

/-! ## Both ends -/

theorem assess_eq_error_iff :
    e.assess cells lead c rules = .error f ↔ e.Stops cells lead c rules f := by
  rw [assess_eq, Except.bind_eq_error_iff]
  constructor
  · rintro (h | ⟨b, hb, h⟩)
    · exact .baseScore h
    · rcases Except.bind_eq_error_iff.mp h with h | ⟨a, ha, h⟩
      · exact .rules hb h
      · exact .clamp hb ha (conclude_eq_error_iff.mp h)
  · intro h
    cases h with
    | baseScore h => exact .inl h
    | rules hb h => exact .inr ⟨_, hb, Except.bind_eq_error_iff.mpr (.inl h)⟩
    | clamp hb ha h =>
        refine .inr ⟨_, hb, Except.bind_eq_error_iff.mpr (.inr ⟨_, ha, ?_⟩)⟩
        exact conclude_eq_error_iff.mpr h

theorem assess_eq_ok_iff :
    e.assess cells lead c rules = .ok v ↔ ∃ b, e.Completes cells lead c rules b v := by
  have hentries : ∀ d : Components, (d.entries.map Prod.snd).sum = d.total := by
    intro d
    simp [Components.entries, Components.total]
    omega
  simp only [assess_eq, Except.bind_eq_ok_iff, conclude_eq_ok_iff]
  constructor
  · rintro ⟨b, hb, a, ha, hscore, hband, htags, htrace, hcomponents, hbase, houtcomes⟩
    have hadjustments : v.adjustments = a.adjustments :=
      congrArg (List.filterMap Outcome.adjustment?) houtcomes
    rw [total_of_applied ha, ← hbase, ← hadjustments, clampScore_eq_ok_iff] at hscore
    have hsum := clampScore_eq_ok_iff.mp (BaseScore.clampScore_total hb)
    exact ⟨b, {
      base := hb
      outcomes := ⟨a.total, by rw [ha, houtcomes]⟩
      components := hcomponents
      categories := rfl
      noLead := by
        intro hlead
        rw [hcomponents, BaseScore.components_of_noLead hb hlead]
        decide
      baseScore := by rw [hbase, hsum.2, hcomponents, hentries]
      adjustments := rfl
      digits := hscore.1
      score := hscore.2
      band := hband
      tags := htags
      trace := by rw [Evaluation.trace, htrace] }⟩
  · rintro ⟨b, h⟩
    obtain ⟨total, ha⟩ := h.outcomes
    have hbase : v.baseScore = b.score := by
      rw [h.baseScore, hentries, h.components]
      exact (clampScore_eq_ok_iff.mp (BaseScore.clampScore_total h.base)).2.symm
    refine ⟨b, h.base, _, ha, ?_, h.band, h.tags, ?_, h.components, hbase, rfl⟩
    · rw [total_of_applied ha, ← hbase]
      exact clampScore_eq_ok_iff.mpr ⟨h.digits, h.score⟩
    · exact List.append_cancel_right h.trace

/-! ## All three kinds -/

inductive Kind where
  | unconfigured
  | degraded
  | completed

/-- What it takes for a result to be of a kind, and what it says then. -/
def IsOfKind (e : Engine) (cells : Cells) (lead config rules : Value) (v : Evaluation) :
    Kind → Prop
  | .unconfigured => Scorecard.ofValue? config = none ∧ v.Tells Tag.noConfig []
  | .degraded => ∃ c f, Scorecard.ofValue? config = some c ∧ e.Stops cells lead c rules f ∧
      v.Tells Tag.scoringError ["Scoring failed: " ++ f.kind]
  | .completed => ∃ c b, Scorecard.ofValue? config = some c ∧ e.Completes cells lead c rules b v

/-- The kind that the scorecard and the end of the evaluation under it decide on. -/
def kindOf (e : Engine) (cells : Cells) (lead config rules : Value) : Kind :=
  match Scorecard.ofValue? config with
  | none => .unconfigured
  | some c =>
    match e.assess cells lead c rules with
    | .error _ => .degraded
    | .ok _ => .completed

theorem isOfKind_kindOf (e : Engine) (cells : Cells) (lead config rules : Value) :
    e.IsOfKind cells lead config rules (e.evaluate cells lead config rules)
      (e.kindOf cells lead config rules) := by
  unfold evaluate kindOf
  cases hc : Scorecard.ofValue? config with
  | none => exact ⟨hc, ⟨rfl, rfl, rfl, rfl, rfl, rfl⟩⟩
  | some c =>
      dsimp only
      cases hassess : e.assess cells lead c rules with
      | error f =>
          exact ⟨c, f, hc, assess_eq_error_iff.mp hassess, ⟨rfl, rfl, rfl, rfl, rfl, rfl⟩⟩
      | ok v =>
          obtain ⟨b, hcompletes⟩ := assess_eq_ok_iff.mp hassess
          exact ⟨c, b, hc, hcompletes⟩

theorem exists_isOfKind (e : Engine) (cells : Cells) (lead config rules : Value) :
    ∃ k, e.IsOfKind cells lead config rules (e.evaluate cells lead config rules) k :=
  ⟨_, isOfKind_kindOf e cells lead config rules⟩

/-- What an evaluation tells of a payload, the application of the rules told first. -/
theorem exists_ofRules_of_mem_outcomes {o : Outcome}
    (ho : o ∈ (e.evaluate cells lead config rules).outcomes) :
    ∃ base a, Application.ofRules cells lead rules base = .ok a ∧ o ∈ a.outcomes := by
  obtain ⟨k, hkind⟩ := e.exists_isOfKind cells lead config rules
  cases k with
  | unconfigured =>
      rw [hkind.2.outcomes] at ho
      cases ho
  | degraded =>
      obtain ⟨c, f, -, -, htells⟩ := hkind
      rw [htells.outcomes] at ho
      cases ho
  | completed =>
      obtain ⟨c, b, -, hb⟩ := hkind
      obtain ⟨total, happlied⟩ := hb.outcomes
      unfold applied at happlied
      split at happlied
      · have hnone : [] = (e.evaluate cells lead config rules).outcomes :=
          congrArg Application.outcomes (Except.ok.inj happlied)
        rw [← hnone] at ho
        cases ho
      · exact ⟨b.score, _, happlied, ho⟩

/-- A result can be of that kind only. -/
theorem eq_kindOf_of_isOfKind {k : Kind} (h : e.IsOfKind cells lead config rules v k) :
    k = e.kindOf cells lead config rules := by
  unfold kindOf
  cases k with
  | unconfigured => rw [h.1]
  | degraded =>
      obtain ⟨c, f, hc, hstops, -⟩ := h
      simp only [hc, assess_eq_error_iff.mpr hstops]
  | completed =>
      obtain ⟨c, b, hc, hcompletes⟩ := h
      simp only [hc, assess_eq_ok_iff.mpr ⟨b, hcompletes⟩]

theorem score_mem_range {k : Kind} (h : e.IsOfKind cells lead config rules v k) :
    0 ≤ v.score ∧ v.score ≤ 100 := by
  cases k with
  | unconfigured => simp [h.2.score]
  | degraded =>
      obtain ⟨c, f, -, -, htells⟩ := h
      simp [htells.score]
  | completed =>
      obtain ⟨c, b, -, hcompletes⟩ := h
      rw [hcompletes.score]
      omega

/-- An evaluation ends with a score from 0 to 100 and is of exactly one kind, whatever the lead, the
scorecard and the rules are. -/
theorem evaluate_kind (e : Engine) (cells : Cells) (lead config rules : Value) :
    (0 ≤ (e.evaluate cells lead config rules).score ∧
      (e.evaluate cells lead config rules).score ≤ 100) ∧
    ∃! k, e.IsOfKind cells lead config rules (e.evaluate cells lead config rules) k := by
  have hkind := isOfKind_kindOf e cells lead config rules
  exact ⟨score_mem_range hkind, _, hkind, fun k hk => eq_kindOf_of_isOfKind hk⟩

end Engine

end Qualify
