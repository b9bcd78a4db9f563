import Qualify.Check.Record
import Qualify.Text.Case

/-!
# Reading scorecards

A scorecard is read from a mapping. Sections that are missing or null stay away. Tiers and domains
are brought into lower case without blanks around them, and thresholds may be given as ranges, of
which the lower end counts.
-/

namespace Qualify

namespace PointTable

/-- The table with these points by tier, later ones replacing earlier ones of the same tier. -/
def ofEntries (es : List (String × Binary64)) : PointTable :=
  es.foldl (fun t e => t.insert e.1 e.2) []

/-- A tier as it is looked up. -/
def tierKey (s : String) : String := s.trimBlanks.lowerCase

/-- The table with its tiers as they are looked up. -/
def normalized (t : PointTable) : PointTable := ofEntries (t.map fun e => (tierKey e.1, e.2))

end PointTable

namespace Check

def pointTable (v : Value) : Checked PointTable := (tableOf number v).map PointTable.ofEntries

def tierTable (v : Value) : Checked PointTable := (pointTable v).map PointTable.normalized

def zeroCeiling : { x : Binary64 // Binary64.zero.le x } := ⟨.zero, by decide +kernel⟩

def weights (v : Value) : Checked Weights :=
  (record "WeightsConfig" v).andThen fun es =>
    (fun j u e => ⟨j.1, u.1, e.1, j.2, u.2, e.2⟩) <$>
      optional ["jobRole", "job_role"] zeroCeiling nonnegative es <*>
      optional ["urgency"] zeroCeiling nonnegative es <*>
      optional ["engagement"] zeroCeiling nonnegative es

def penalties (v : Value) : Checked Penalties :=
  (record "NegativeConfig" v).andThen fun es =>
    Penalties.mk <$>
      optional ["competitor"] .zero number es <*>
      optional ["freeEmail", "free_email"] .zero number es <*>
      optional ["invalidDomain", "invalid_domain"] .zero number es <*>
      optional ["spam"] .zero number es

def enrichment (v : Value) : Checked Enrichment :=
  (record "EnrichmentConfig" v).andThen fun es =>
    Enrichment.mk <$>
      optional ["companySize", "company_size"] [] tierTable es <*>
      optional ["industry"] [] tierTable es

/-- A threshold that is given as a range stands for the range's lower end. -/
def lowerEnd (v : Value) : Value := if v.isMap then (v.get? "min").getD .null else v

/-- Three numbers as thresholds. -/
def ascending (high medium low : Binary64) : Checked Thresholds :=
  if h : low.le medium ∧ medium.le high then .valid ⟨high, medium, low, h⟩
  else .refuse (.descendingThresholds low medium high)

def thresholds (v : Value) : Checked Thresholds :=
  match v with
  | .bands t => .valid t
  | v =>
    (record "BandThresholds" v).andThen fun es =>
      let es := es.map fun e => (e.1, lowerEnd e.2)
      let parts := (fun h m l => (h, m, l)) <$>
        required ["high"] number es <*> required ["medium"] number es <*>
        optional ["low"] .zero number es
      parts.andThen fun (h, m, l) => ascending h m l

/-- Domains in lower case without blanks around them; blank ones are left out. -/
def domains (v : Value) : Checked (List String) :=
  (listOf text v).map fun ds => (ds.map fun d => d.trimBlanks.lowerCase).filter fun d => !d.isEmpty

def scorecard (v : Value) : Checked Scorecard :=
  match v with
  | .scorecard c => .valid c
  | v =>
    (record "ScoringConfig" v).andThen fun es =>
      Scorecard.mk <$>
        optional ["id"] none (nullable identifier) es <*>
        optional ["teamId", "team_id"] none (nullable identifier) es <*>
        optional ["version"] 1 integer es <*>
        optional ["weights"] none (nullable weights) es <*>
        optional ["negative"] none (nullable penalties) es <*>
        optional ["enrichment"] none (nullable enrichment) es <*>
        optional ["bands"] none (nullable thresholds) es <*>
        optional ["competitorDomains", "competitor_domains"] [] domains es

end Check

namespace Scorecard

/-- The scorecard that a value is or describes, if it does. -/
def ofValue? : Value → Option Scorecard
  | .scorecard c => some c
  | .map es => (Check.scorecard (.map es)).result?
  | _ => none

/-- The sections that a scorecard lacks, by the keys under which they are given. -/
def missingSections (c : Scorecard) : List String :=
  [("weights", c.weights.isNone), ("negative", c.penalties.isNone),
   ("enrichment", c.enrichment.isNone), ("bands", c.bands.isNone)].filterMap fun (key, missing) =>
    if missing then some key else none

/-- What is to be said against a value as a scorecard. -/
def remarks : Value → List String
  | .map es =>
    match Check.scorecard (.map es) with
    | .valid c => c.missingSections.map fun key =>
        key ++ ": section is missing, category will not be scored"
    | .invalid ps => ps.map Problem.text
  | _ => ["Scoring config must be a mapping"]

end Scorecard

end Qualify
