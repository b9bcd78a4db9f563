import Qualify.Band
import Qualify.Rule.Writer

/-!
# Defaults

What a new team starts with: a complete scorecard, four rules, and the document that holds both.
-/

namespace Qualify.Defaults

def points (n : Nat) : Binary64 := .ofRatio false n 1

def table (es : List (String × Nat)) : PointTable := es.map fun e => (e.1, points e.2)

def weights : Weights where
  jobRole := points 45
  urgency := points 25
  engagement := points 30
  nonnegative := by decide +kernel

def scorecard : Scorecard where
  version := 1
  weights := some weights
  penalties := some
    { competitor := points 20, freeEmail := points 10, invalidDomain := points 15, spam := points 30 }
  enrichment := some
    { companySize :=
        table [("enterprise", 20), ("large", 15), ("medium", 10), ("small", 5), ("startup", 0)]
      industry :=
        table [("technology", 15), ("finance", 12), ("healthcare", 10), ("manufacturing", 8),
          ("retail", 5), ("other", 0)] }
  bands := some .default

def conditionData (field comparison : String) (comparand : Value) : Value :=
  .ofTexts [("field", .text field), ("op", .text comparison), ("value", comparand)]

def ifThenData (conditions : List Value) (adjust : Int) (reason : String) : Value :=
  .ofTexts [("if", .list conditions),
    ("then", .ofTexts [("adjust", .int adjust), ("reason", .text reason)])]

/-- The starting rules of a team, in the order in which they apply. -/
def rules (teamId : Option String) : List Rule := [
  { id := "high-budget", teamId, kind := .ifThen, order := 1
    definition := ifThenData [conditionData "fields.budget" "greater_equal" (.int 10000)] 15
      "High budget" },
  { id := "decision-maker", teamId, kind := .ifThen, order := 2
    definition := ifThenData
      [conditionData "fields.title" "regex" (.text "\\b(ceo|founder|owner)\\b")] 20
      "Decision maker" },
  { id := "paid-search", teamId, kind := .ifThen, order := 3
    definition := ifThenData
      [conditionData "utm.source" "equals" (.text "google"),
       conditionData "utm.medium" "equals" (.text "cpc")] 10
      "Paid search" },
  { id := "company-size", teamId, kind := .weight, order := 4
    definition := .ofTexts [("field", .text "fields.company_size"),
      ("weights", .ofTexts [("enterprise", .int 10), ("large", .int 5), ("startup", .int (-5))])] }]

/-- The document with the defaults for one team, whose name stands in it as it is. -/
def document (team : Value) : Except Failure Value := do
  let teamId ← if team.isNull then pure none else some <$> team.toText
  let config := (Value.withEntry "teamId" team) ((scorecard.toData.withoutNulls.entries?).getD [])
  let rules := (rules teamId).map fun r => r.toData.withoutNulls
  return .ofTexts [("version", .text "1.0"),
    ("teams", .map [(team, .ofTexts [("config", .map config), ("rules", .list rules)])])]

end Qualify.Defaults
