import Qualify.Evaluation
import Qualify.Event
import Qualify.Rulebook

/-!
# Reports

The events that reading and evaluating report, in order. They are told from the data alone and never
bear on a result.
-/

namespace Qualify

namespace Scorecard

/-- Reading a scorecard: what is there and is none is rejected. -/
def events (v : Value) : List Event :=
  if v.isNull || (ofValue? v).isSome then [] else [.scorecardRejected]

end Scorecard

namespace Thresholds

def events (v : Value) : List Event :=
  if v.isNull || (ofValue? v).isSome then []
  else if v.isMap then [.thresholdsInvalid] else [.thresholdsUnsupported]

end Thresholds

namespace Rulebook

/-- Reading a rulebook, whether it is refused in the end or not. -/
def events (v : Value) : List Event :=
  match (Check.draft v).result? with
  | none => []
  | some b => (incompleteTeams b.teams).map fun _ => .teamIncomplete

end Rulebook

namespace BaseScore

def events (tables : DomainTables) (cells : Cells) (v : Value) (c : Scorecard) : List Event :=
  match Lead.ofValue? cells v with
  | none => []
  | some lead =>
    match ofLead tables lead c with
    | .ok _ => [.baseScored]
    | .error _ => []

end BaseScore

namespace Outcome

def events (o : Outcome) : List Event :=
  match o.skipReason? with
  | some (.invalidDefinition _) => [.definitionInvalid]
  | some (.evaluationError _) => [.ruleFailed]
  | _ => []

end Outcome

namespace Application

/-- Telling rules from what is none, up to the first of the latter that cannot be named. -/
def sortingEvents : List Value → List Event
  | [] => []
  | v :: vs =>
    match Check.rule v with
    | .valid _ => sortingEvents vs
    | .invalid _ =>
      .ruleMalformed :: match malformed v with
        | .ok _ => sortingEvents vs
        | .error _ => []

def events (cells : Cells) (lead rules : Value) : List Event :=
  match items rules with
  | .error _ => []
  | .ok vs =>
    sortingEvents vs ++ match sortOut vs with
      | .error _ => []
      | .ok (_, rules) =>
        (inOrder rules).flatMap fun r => (r.outcome cells (rootOf cells lead)).events

end Application

namespace Engine

def events (e : Engine) (cells : Cells) (lead config rules : Value) : List Event :=
  Scorecard.events config ++ match Scorecard.ofValue? config with
    | none => []
    | some c =>
      BaseScore.events e.tables cells lead c ++
        (match BaseScore.ofValue e.tables cells lead c with
          | .error _ => []
          | .ok base =>
            if base.tags.contains Tag.invalidData then [] else Application.events cells lead rules) ++
        match e.appraise cells lead c rules with
        | .error _ => [.scoringFailed]
        | .ok (base, a) =>
          (if c.bands.isNone then [.thresholdsMissing] else []) ++
            match conclude c base a with
            | .error _ => [.scoringFailed]
            | .ok _ => [.leadScored]

end Engine

end Qualify
