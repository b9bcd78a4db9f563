import Qualify.Rule
import Qualify.Scorecard.Reader

/-!
# Reading rules and their definitions

Rules are read in two steps: the rule itself from a mapping, and its definition when the rule is to
be applied.
-/

namespace Qualify

namespace Check

/-- One of several named things. -/
def choice {α : Type} (name : α → String) (all : List α) (v : Value) : Checked α :=
  match v.text?.bind fun s => all.find? fun a => name a == s with
  | some a => .valid a
  | none => .refuse (.noChoice (all.map name))

def condition (v : Value) : Checked Condition :=
  (record "Condition" v).andThen fun es =>
    let parts := Condition.mk <$>
      required ["field"] nonemptyText es <*>
      required ["op"] (choice Comparison.name Comparison.all) es <*>
      optional ["value"] .null .valid es
    parts.andThen fun c =>
      if c.comparison.needsCollection && c.comparand.members?.isNone then
        .refuse (.listRequired c.comparison.name)
      else .valid c

/-- An adjustment with its reason. The points may stand under a second key if the first is not
there. -/
def action (v : Value) : Checked (Binary64 × Option String) :=
  (record "ThenAction" v).andThen fun es =>
    Prod.mk <$> required ["adjust", "add"] number
        (if (Value.lookup "adjust" es).isNone then
          es.map fun e => if e.1.text? == some "add" then (.text "adjust", e.2) else e
        else es) <*>
      optional ["reason"] none (nullable text) es

/-- A point table that may be given by keys of any kind. -/
def weightTable (v : Value) : Checked PointTable :=
  match v with
  | .map es => (Checked.ofExcept (withTextKeys es)).andThen fun es => pointTable (.map es)
  | _ => .refuse .noMapping

def ifThen (es : Entries) : Checked Definition :=
  (fun cs a => .ifThen cs a.1 a.2) <$>
    required ["if", "conditions"] (nonemptyListOf condition) es <*>
    required ["then"] action es

def weightRule (es : Entries) : Checked Definition :=
  Definition.weight <$>
    required ["field"] nonemptyText es <*>
    required ["weights"] weightTable es <*>
    optional ["reason"] none (nullable text) es

/-- The definition of a rule of some kind. -/
def definition : RuleKind → Entries → Checked Definition
  | .ifThen => ifThen
  | .weight => weightRule

def rule (v : Value) : Checked Rule :=
  match v with
  | .rule id teamId kind enabled order definition =>
    .valid { id, teamId, kind, enabled, order, definition }
  | v =>
    (record "ScoringRule" v).andThen fun es =>
      Rule.mk <$>
        required ["id"] identifier es <*>
        optional ["teamId", "team_id"] none (nullable identifier) es <*>
        required ["type"] (choice RuleKind.name RuleKind.all) es <*>
        optional ["enabled"] true boolean es <*>
        optional ["order"] 0 integer es <*>
        optional ["definition"] .null .valid es

end Check

/-- Why a definition cannot be read. -/
inductive DefinitionFault where
  | noMapping (kind : RuleKind)
  | invalid (kind : RuleKind) (problems : List Problem)
deriving DecidableEq

namespace DefinitionFault

def message : DefinitionFault → String
  | noMapping kind => kind.name ++ " definition must be a mapping"
  | invalid kind _ => "Invalid " ++ kind.name ++ " definition"

/-- What is wrong in detail, without places. -/
def complaints : DefinitionFault → List String
  | noMapping _ => []
  | invalid _ ps => ps.map fun p => p.complaint.message

end DefinitionFault

namespace Rule

/-- The definition of a rule. -/
def readDefinition (r : Rule) : Except DefinitionFault Definition :=
  match r.definition with
  | .map es =>
    match Check.definition r.kind es with
    | .valid d => .ok d
    | .invalid ps => .error (.invalid r.kind ps)
  | _ => .error (.noMapping r.kind)

/-- What is to be said against a rule as read. -/
def remarksOn (r : Rule) : List String :=
  (if r.order < 0 then ["order: must be a non-negative integer"] else []) ++
    match r.readDefinition with
    | .ok _ => []
    | .error f =>
      let complaints := if f.complaints.isEmpty then [f.message] else f.complaints
      complaints.map ("definition: " ++ ·)

/-- What is to be said against a value as a rule. -/
def remarks (v : Value) : List String :=
  match v with
  | .map _ | .rule .. =>
    match Check.rule v with
    | .valid r => r.remarksOn
    | .invalid ps => ps.map Problem.text
  | _ => ["Scoring rule must be a mapping"]

end Rule

end Qualify
