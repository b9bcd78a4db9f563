import Qualify.Text.Quoted
import Qualify.Number.Shortest
import Qualify.Value

/-!
# Texts of values

A value as text. A text is its own text; inside a collection it stands in quotes. The text of an
integer exists up to a limit of digits.
-/

namespace Qualify

def RuleKind.name : RuleKind → String
  | .ifThen => "IF_THEN"
  | .weight => "WEIGHT"

namespace Value

/-- Members between brackets, separated by commas. -/
def enclosed (opening closing : String) (parts : List String) : String :=
  opening ++ ", ".intercalate parts ++ closing

/-- A tuple of one member keeps a comma. -/
def enclosedTuple (parts : List String) : String :=
  match parts with
  | [p] => "(" ++ p ++ ",)"
  | ps => enclosed "(" ")" ps

def enclosedSet (empty opening closing : String) (parts : List String) : String :=
  if parts.isEmpty then empty else enclosed opening closing parts

def boolText (b : Bool) : String := if b then "True" else "False"

def optionalText (s : Option String) : String :=
  match s with
  | none => "None"
  | some s => s.inQuotes

/-! ## Objects

The library's own objects are told by their fields. -/

/-- Fields by name, each with its text. -/
abbrev Fields := List (String × String)

def Fields.parts (fs : Fields) : List String := fs.map fun f => f.1 ++ "=" ++ f.2

/-- An object by its fields behind its name. -/
def named (name : String) (fs : Fields) : String := enclosed (name ++ "(") ")" fs.parts

def tableText (t : PointTable) : String :=
  enclosed "\x7b" "\x7d" (t.map fun e => e.1.inQuotes ++ ": " ++ e.2.text)

def weightsText (w : Weights) : String :=
  named "WeightsConfig" [("job_role", w.jobRole.text), ("urgency", w.urgency.text),
    ("engagement", w.engagement.text)]

def penaltiesText (p : Penalties) : String :=
  named "NegativeConfig" [("competitor", p.competitor.text), ("free_email", p.freeEmail.text),
    ("invalid_domain", p.invalidDomain.text), ("spam", p.spam.text)]

def enrichmentText (e : Enrichment) : String :=
  named "EnrichmentConfig"
    [("company_size", tableText e.companySize), ("industry", tableText e.industry)]

def thresholdFields (t : Thresholds) : Fields :=
  [("high", t.high.text), ("medium", t.medium.text), ("low", t.low.text)]

def thresholdsText (t : Thresholds) : String := named "BandThresholds" (thresholdFields t)

def sectionText {α : Type} (text : α → String) (section? : Option α) : String :=
  (section?.map text).getD "None"

def scorecardFields (c : Scorecard) (version : String) : Fields :=
  [("id", optionalText c.id), ("team_id", optionalText c.teamId), ("version", version),
   ("weights", sectionText weightsText c.weights),
   ("negative", sectionText penaltiesText c.penalties),
   ("enrichment", sectionText enrichmentText c.enrichment),
   ("bands", sectionText thresholdsText c.bands),
   ("competitor_domains", enclosed "[" "]" (c.competitorDomains.map String.inQuotes))]

def ruleFields (id : String) (teamId : Option String) (kind : RuleKind) (enabled : Bool)
    (order definition : String) : Fields :=
  [("id", id.inQuotes), ("team_id", optionalText teamId),
   ("type", "<RuleType." ++ kind.name ++ ": '" ++ kind.name ++ "'>"), ("enabled", boolText enabled),
   ("order", order), ("definition", definition)]

mutual

/-- The text of a value inside a collection. -/
def quoted (v : Value) : Except Failure String :=
  match v with
  | .null => .ok "None"
  | .bool b => .ok (boolText b)
  | .int n => integerText n
  | .float x => .ok x.text
  | .decimal d => .ok ("Decimal('" ++ d.text ++ "')")
  | .text s => .ok s.inQuotes
  | .bytes bs => .ok (String.ofList (Text.quotedBytes bs))
  | .list xs => return enclosed "[" "]" (← quotedItems xs)
  | .tuple xs => return enclosedTuple (← quotedItems xs)
  | .set xs => return enclosedSet "set()" "\x7b" "\x7d" (← quotedItems xs)
  | .frozenSet xs => return enclosedSet "frozenset()" "frozenset(\x7b" "\x7d)" (← quotedItems xs)
  | .map es => return enclosed "\x7b" "\x7d" (← quotedEntries es)
  | .date d => .ok d.quoted
  | .timestamp t => .ok t.quoted
  | .shared _ => .ok "\x7b...\x7d"
  | .incomparable _ => .ok "<object>"
  | .lead email name company domain fields utm extra =>
    return "Lead(email=" ++ (← quoted email) ++ ", name=" ++ (← quoted name) ++ ", company=" ++
      (← quoted company) ++ ", domain=" ++ (← quoted domain) ++ ", fields=" ++ (← quoted fields) ++
      ", utm=" ++ (← quoted utm) ++ ", extra=" ++ (← quoted extra) ++ ")"
  | .rule id teamId kind enabled order definition =>
    return named "ScoringRule"
      (ruleFields id teamId kind enabled (← integerText order) (← quoted definition))
  | .scorecard c => return named "ScoringConfig" (scorecardFields c (← integerText c.version))
  | .bands t => .ok (thresholdsText t)
termination_by structural v

def quotedItems (xs : List Value) : Except Failure (List String) :=
  match xs with
  | [] => .ok []
  | x :: xs => return (← quoted x) :: (← quotedItems xs)
termination_by structural xs

def quotedEntries (es : List (Value × Value)) : Except Failure (List String) :=
  match es with
  | [] => .ok []
  | (k, v) :: es => return ((← quoted k) ++ ": " ++ (← quoted v)) :: (← quotedEntries es)
termination_by structural es

end

/-- The text of a value. -/
def toText : Value → Except Failure String
  | .text s => .ok s
  | .decimal d => .ok d.text
  | .date d => .ok d.text
  | .timestamp t => .ok t.text
  | .rule id teamId kind enabled order definition => do
    let fields := ruleFields id teamId kind enabled (← integerText order) (← quoted definition)
    return " ".intercalate fields.parts
  | .scorecard c => do return " ".intercalate (scorecardFields c (← integerText c.version)).parts
  | .bands t => .ok (" ".intercalate (Fields.parts (thresholdFields t)))
  | v => v.quoted

end Value

end Qualify
