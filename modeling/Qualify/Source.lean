import Qualify.Evaluation
import Qualify.Fault
import Qualify.Folder
import Qualify.Report
import Qualify.Rule.Writer
import Qualify.Yaml.Data

/-!
# Sources of rulebooks

A source serves the rulebook that was read from a file last. Reading makes a rulebook of the whole
file or fails; only a rulebook that was read is published, so that a failure leaves what is served as
it was. Both steps are separate.
-/

namespace Qualify

/-- Why a file gives no rulebook. -/
inductive LoadFault where
  | missing
  | directory
  | undecodable (fault : Utf8.Fault)
  | malformed
  | invalid (problems : List Problem)
  /-- The data in the file cannot be built. -/
  | unbuildable (fault : Yaml.Fault)

namespace LoadFault

/-- The setting that names the file. -/
def setting : Option String := some "scoring_rules_path"

/-- The fault that is reported about a file, none if the failure goes through as it is. -/
def fault? (path : Location) : LoadFault → Option Fault
  | missing => some (.setting ("Scoring rules file not found: " ++ path.text) setting)
  | directory =>
    some (unreadable ("[Errno 21] Is a directory: " ++ path.text.inQuotes))
  | undecodable f => some (unreadable f.message)
  | malformed => some (.setting (about ++ " is not valid YAML") none)
  | invalid ps =>
    some (.setting ("Validation failed for scoring rules file '" ++ path.text ++ "': " ++
      "; ".intercalate (ps.map Problem.text)) none)
  | unbuildable _ => none
where
  about : String := "Scoring rules file '" ++ path.text ++ "'"
  unreadable (why : String) : Fault := .setting (about ++ " could not be read: " ++ why) setting

end LoadFault

namespace Rulebook

/-- The data in a file. -/
def dataOf : FileState → Except LoadFault Value
  | .absent => .error .missing
  | .directory => .error .directory
  | .file bytes =>
    match Utf8.text bytes with
    | .error f => .error (.undecodable f)
    | .ok s =>
      match Yaml.read s with
      | .ok v => .ok (if v.isEmpty then .map [] else v)
      | .error .malformed => .error .malformed
      | .error f => .error (.unbuildable f)

/-- The rulebook in a file. -/
def ofFile (s : FileState) : Except LoadFault Rulebook := do
  match Check.rulebook (← dataOf s) with
  | .valid b => return b
  | .invalid ps => .error (.invalid ps)

/-- What reading a file reports. -/
def readEvents (s : FileState) : List Event :=
  match dataOf s with
  | .ok v => events v
  | .error _ => []

end Rulebook

structure Source where
  path : Location
  /-- The rulebook that is served, if there is one yet. -/
  served : Option Rulebook := none

/-- Why a source has no answer. -/
inductive SourceFault where
  | notLoaded (path : Location)
  | noTeam (id : Value)
  /-- The team's name has no text. -/
  | unnamed (failure : Failure)

namespace SourceFault

def fault? : SourceFault → Option Fault
  | notLoaded path => some (.setting ("Scoring rules not loaded from " ++ path.text) LoadFault.setting)
  | noTeam id => some (.missing "Team scoring configuration" id)
  | unnamed _ => none

end SourceFault

namespace Source

/-- The source serving another rulebook. -/
def publish (s : Source) (b : Rulebook) : Source := { s with served := some b }

/-- The source after the file was read: what a failure leaves is the source as it was. -/
def load (s : Source) (state : FileState) : Except LoadFault (Source × Rulebook) := do
  let b ← Rulebook.ofFile state
  return (s.publish b, b)

def loadEvents (state : FileState) : List Event :=
  Rulebook.readEvents state ++
    match Rulebook.ofFile state with
    | .ok _ => [.rulebookLoaded]
    | .error _ => []

def rulebook (s : Source) : Except SourceFault Rulebook :=
  match s.served with
  | some b => .ok b
  | none => .error (.notLoaded s.path)

/-- The names of the teams, sorted. -/
def teamIds (s : Source) : Except SourceFault (List String) := do
  return ((← s.rulebook).teams.map (·.1)).mergeSort fun a b => !decide (b < a)

/-- The team whose name is the text of a value. -/
def team (s : Source) (id : Value) : Except SourceFault Team := do
  let b ← s.rulebook
  match id.toText with
  | .error f => .error (.unnamed f)
  | .ok name =>
    match b.team? name with
    | some t => return t
    | none => .error (.noTeam id)

end Source

namespace Team

/-- The evaluation of a lead with a team's scorecard and rules. -/
def evaluate (t : Team) (e : Engine) (cells : Cells) (lead : Value) : Evaluation :=
  e.evaluate cells lead (.scorecard t.scorecard) (.list (t.rules.map Rule.toValue))

def events (t : Team) (e : Engine) (cells : Cells) (lead : Value) : List Event :=
  e.events cells lead (.scorecard t.scorecard) (.list (t.rules.map Rule.toValue))

end Team

namespace Source

/-- The evaluation of a lead with the scorecard and the rules of one team. -/
def evaluate (s : Source) (e : Engine) (cells : Cells) (id lead : Value) :
    Except SourceFault Evaluation := do
  return (← s.team id).evaluate e cells lead

end Source

end Qualify
