import Qualify.Rule.Reader

/-!
# Scorecards and rules as data

The data that a scorecard, a rule or a definition is read back from. What is missing is written as
null.
-/

namespace Qualify

namespace Value

def ofTexts (entries : List (String × Value)) : Value := .map (entries.map fun e => (.text e.1, e.2))

def ofText? : Option String → Value
  | some s => .text s
  | none => .null

/-- A mapping without the entries that are null. -/
def withoutNulls : Value → Value
  | .map es => .map (es.filter fun e => !e.2.isNull)
  | v => v

end Value

namespace PointTable

def toData (t : PointTable) : Value := .ofTexts (t.map fun e => (e.1, .float e.2))

end PointTable

namespace Weights

def toData (w : Weights) : Value :=
  .ofTexts [("jobRole", .float w.jobRole), ("urgency", .float w.urgency),
    ("engagement", .float w.engagement)]

end Weights

namespace Penalties

def toData (p : Penalties) : Value :=
  .ofTexts [("competitor", .float p.competitor), ("freeEmail", .float p.freeEmail),
    ("invalidDomain", .float p.invalidDomain), ("spam", .float p.spam)]

end Penalties

namespace Enrichment

def toData (e : Enrichment) : Value :=
  .ofTexts [("companySize", e.companySize.toData), ("industry", e.industry.toData)]

end Enrichment

namespace Thresholds

def toData (t : Thresholds) : Value :=
  .ofTexts [("high", .float t.high), ("medium", .float t.medium), ("low", .float t.low)]

end Thresholds

namespace Scorecard

def sectionData {α : Type} (data : α → Value) : Option α → Value
  | some a => data a
  | none => .null

def toData (c : Scorecard) : Value :=
  .ofTexts [("id", .ofText? c.id), ("teamId", .ofText? c.teamId), ("version", .int c.version),
    ("weights", sectionData Weights.toData c.weights),
    ("negative", sectionData Penalties.toData c.penalties),
    ("enrichment", sectionData Enrichment.toData c.enrichment),
    ("bands", sectionData Thresholds.toData c.bands),
    ("competitorDomains", .list (c.competitorDomains.map .text))]

end Scorecard

namespace Condition

def toData (c : Condition) : Value :=
  .ofTexts [("field", .text c.field), ("op", .text c.comparison.name), ("value", c.comparand)]

end Condition

namespace Definition

def toData : Definition → Value
  | ifThen conditions adjust reason =>
    .ofTexts [("if", .list (conditions.map Condition.toData)),
      ("then", .ofTexts [("adjust", .float adjust), ("reason", .ofText? reason)])]
  | weight field weights reason =>
    .ofTexts [("field", .text field), ("weights", weights.toData), ("reason", .ofText? reason)]

end Definition

namespace Rule

def toData (r : Rule) : Value :=
  .ofTexts [("id", .text r.id), ("teamId", .ofText? r.teamId), ("type", .text r.kind.name),
    ("enabled", .bool r.enabled), ("order", .int r.order), ("definition", r.definition)]

end Rule

end Qualify
