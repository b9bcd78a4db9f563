import Qualify.Application
import Qualify.Band

/-!
# Evaluations

The evaluation of a lead: its base score, the rules on top of it, the sum brought between the least
and the greatest score, and the band of that. An evaluation always has a result. Without a scorecard
or after a failure the score is zero and a tag says why.
-/

namespace Qualify

structure Evaluation where
  score : Int := 0
  band : Band := .low
  tags : List String := []
  /-- What the base score says of itself, before the adjustments. -/
  baseTrace : List String := []
  components : Components := {}
  baseScore : Int := 0
  outcomes : List Outcome := []
deriving DecidableEq

namespace Evaluation

/-- The adjustments of the rules that were applied, in the order of their outcomes. -/
def adjustments (e : Evaluation) : List Adjustment := e.outcomes.filterMap Outcome.adjustment?

/-- Every line that tells how the score came about. -/
def trace (e : Evaluation) : List String := e.baseTrace ++ e.adjustments.map Adjustment.text

def skipped (e : Evaluation) : List Outcome :=
  e.outcomes.filter fun o => o.skipReason?.isSome

/-- The evaluation without a scorecard. -/
def withoutScorecard : Evaluation := { tags := [Tag.noConfig] }

/-- The evaluation after a failure. -/
def degraded (f : Failure) : Evaluation :=
  { tags := [Tag.scoringError], baseTrace := ["Scoring failed: " ++ f.kind] }

/-- The evaluation in words. -/
def explanation (e : Evaluation) : List String :=
  let components := e.components.entries.map fun c => c.1 ++ "=" ++ toString c.2
  let tags := if e.tags.isEmpty then "-" else ", ".intercalate e.tags
  let trace := e.trace.map ("  - " ++ ·)
  let skipped := e.skipped.map fun o => o.ruleId.getD "None"
  ["Score: " ++ toString e.score ++ " (" ++ e.band.name ++ ") - " ++ e.band.description,
   "Base score: " ++ toString e.baseScore,
   "Components: " ++ ", ".intercalate components,
   "Tags: " ++ tags] ++
    (if trace.isEmpty then [] else "Trace:" :: trace) ++
    (if skipped.isEmpty then [] else ["Skipped rules: " ++ ", ".intercalate skipped])

end Evaluation

/-- What evaluates leads: the sets of domains that it looks up. -/
structure Engine where
  tables : DomainTables := {}

/-- What is counted about an evaluation. -/
inductive Count where
  | ruleSkipped (reason : String)
  | failed (kind : String)
  | evaluated (band : Band)

namespace Engine

/-- An engine that knows further competitors and further providers of free mailboxes. -/
def withExtras (competitors freeMail : List String) : Engine where
  tables :=
    { competitors := (Vocabulary.competitorDomains ++ competitors).map String.lowerCase
      freeMail := (Vocabulary.freeMailDomains ++ freeMail).map String.lowerCase }

/-- The base score of a lead with the rules on top of it; what is no lead has no rules. -/
def appraise (e : Engine) (cells : Cells) (lead : Value) (c : Scorecard) (rules : Value) :
    Except Failure (BaseScore × Application) := do
  let base ← BaseScore.ofValue e.tables cells lead c
  let applied ←
    if base.tags.contains Tag.invalidData then pure { total := base.score }
    else Application.ofRules cells lead rules base.score
  return (base, applied)

/-- The evaluation that a base score and the rules on top of it lead to. -/
def conclude (c : Scorecard) (base : BaseScore) (a : Application) : Except Failure Evaluation := do
  let score ← clampScore a.total
  let band := Band.classify (.ofInt score) (c.bands.getD .default)
  return { score, band, tags := base.tags, baseTrace := base.trace, components := base.components,
           baseScore := base.score, outcomes := a.outcomes }

/-- The evaluation of a lead under a scorecard. -/
def assess (e : Engine) (cells : Cells) (lead : Value) (c : Scorecard) (rules : Value) :
    Except Failure Evaluation := do
  let (base, applied) ← e.appraise cells lead c rules
  conclude c base applied

/-- The evaluation of a lead under what should be a scorecard, with what should be rules. -/
def evaluate (e : Engine) (cells : Cells) (lead config rules : Value) : Evaluation :=
  match Scorecard.ofValue? config with
  | none => .withoutScorecard
  | some c =>
    match e.assess cells lead c rules with
    | .ok v => v
    | .error f => .degraded f

/-- What is counted while a lead is evaluated, in order. -/
def counts (e : Engine) (cells : Cells) (lead config rules : Value) : List Count :=
  match Scorecard.ofValue? config with
  | none => [.evaluated .low]
  | some c =>
    match e.appraise cells lead c rules with
    | .error f => [.failed f.kind, .evaluated .low]
    | .ok (base, a) =>
      (a.skipped.filterMap Outcome.skipReason?).map (fun r => .ruleSkipped r.name) ++
        match conclude c base a with
        | .error f => [.failed f.kind, .evaluated .low]
        | .ok v => [.evaluated v.band]

end Engine

end Qualify
