import Qualify.Band
import Qualify.Settings

/-!
# Metrics

What is counted while leads are evaluated and rules reloaded. A counter counts measurements by
labels; a histogram counts durations by the bounds that they do not exceed. A collector that is off
counts nothing.
-/

namespace Qualify

/-- The labels of a sample, by name. -/
abbrev Labels := List (String × String)

/-- A count, told from others by name and labels. -/
structure Sample where
  name : String
  labels : Labels
deriving DecidableEq

/-- A duration with the histogram's bounds. -/
structure Histogram where
  name : String
  help : String
  bounds : List Decimal

namespace Metrics

/-- A bound of so many ten-thousandths. -/
def bound (n : Nat) : Decimal := .finite false n (-4)

def evaluationSeconds : Histogram where
  name := "leadscore_evaluation_duration_seconds"
  help := "Time taken to evaluate one lead"
  bounds := [bound 5, bound 10, bound 50, bound 100, bound 500, bound 1000, bound 5000]

def reloadSeconds : Histogram where
  name := "leadscore_config_reload_duration_seconds"
  help := "Configuration reload duration"
  bounds := [bound 10, bound 100, bound 500, bound 1000, bound 5000, bound 10000]

def evaluated : String := "leadscore_leads_evaluated_total"
def skipped : String := "leadscore_rules_skipped_total"
def errors : String := "leadscore_errors_total"
def reloads : String := "leadscore_config_reload_total"

/-- Every metric with what it counts, in the order in which they are listed. -/
def help : List (String × String) := [
  ("leadscore_app_info", "LeadScore application information"),
  (evaluated, "Total number of leads evaluated"),
  (skipped, "Scoring rules skipped during evaluation"),
  (evaluationSeconds.name, evaluationSeconds.help),
  (errors, "Total number of absorbed errors"),
  (reloads, "Total configuration reloads"),
  (reloadSeconds.name, reloadSeconds.help)]

end Metrics

namespace Histogram

/-- A bound as a label. -/
def boundLabel (d : Decimal) : String := (Binary64.ofDecimal d).text

/-- The samples that a duration counts in: its bounds, the bound of all, and their number. A duration
that is no number counts nowhere. -/
def samples (h : Histogram) (labels : Labels) (seconds : Decimal) : List Sample :=
  if seconds.isNaN then []
  else
    let within := h.bounds.filter fun b =>
      match seconds.cmp? (Binary64.ofDecimal b).toDecimal with
      | some .lt | some .eq => true
      | _ => false
    (within.map boundLabel ++ ["+Inf"]).map (fun l => ⟨h.name ++ "_bucket", labels ++ [("le", l)]⟩) ++
      [⟨h.name ++ "_count", labels⟩]

end Histogram

/-- What is measured. Labels and durations are values of any kind. -/
inductive Measurement where
  | evaluation (band duration : Value)
  | ruleSkipped (reason : Value)
  | error (kind domain : Value)
  | reload (configType duration status : Value)

/-- Why a measurement cannot be counted. -/
inductive MeasurementFault where
  /-- A value of this type is no duration. -/
  | noDuration (type : String)
  | longDuration
  | label (failure : Failure)

namespace MeasurementFault

def kind : MeasurementFault → String
  | noDuration _ => "TypeError"
  | longDuration => "OverflowError"
  | label f => f.kind

def message : MeasurementFault → String
  | noDuration type => "unsupported operand type(s) for +=: 'float' and '" ++ type ++ "'"
  | longDuration => "int too large to convert to float"
  | label f => f.message

end MeasurementFault

namespace Metrics

def labelText (v : Value) : Except MeasurementFault String :=
  match v.toText with
  | .ok s => .ok s
  | .error f => .error (.label f)

/-- The seconds of a duration. -/
def seconds : Value → Except MeasurementFault Decimal
  | .int n => if (Binary64.ofInt? n).isNone then .error .longDuration else .ok (.ofInt n)
  | .float x => .ok x.toDecimal
  | .bool b => .ok (.ofInt (if b then 1 else 0))
  | v => .error (.noDuration v.qualifiedTypeName)

/-- The samples that go up by one with a measurement. -/
def counted : Measurement → Except MeasurementFault (List Sample)
  | .evaluation band duration => do
    let band ← labelText band
    let duration ← seconds duration
    return ⟨evaluated, [("band", band)]⟩ :: evaluationSeconds.samples [] duration
  | .ruleSkipped reason => return [⟨skipped, [("reason", ← labelText reason)]⟩]
  | .error kind domain => do
    let kind ← labelText kind
    let domain ← labelText domain
    return [⟨errors, [("domain", domain), ("error_type", kind)]⟩]
  | .reload configType duration status => do
    let configType ← labelText configType
    let status ← labelText status
    let duration ← seconds duration
    return ⟨reloads, [("config_type", configType), ("status", status)]⟩ ::
      reloadSeconds.samples [("config_type", configType)] duration

/-- The samples that go up by one with a measurement, where measuring may be off. -/
def track (enabled : Bool) (m : Measurement) : Except MeasurementFault (List Sample) :=
  if enabled then counted m else .ok []

/-- A label's text in quotes. -/
def quotedLabel (s : String) : String :=
  let escaped := s.toList.flatMap fun c =>
    if c = '\\' ∨ c = '"' then ['\\', c] else if c = '\n' then ['\\', 'n'] else [c]
  String.ofList ('"' :: escaped ++ ['"'])

/-- The lines that say what is counted, and which program counts it. -/
def listing (s : Settings) : List String :=
  help.flatMap fun (name, text) =>
    ("# HELP " ++ name ++ " " ++ text) ::
      if name == "leadscore_app_info" then
        [name ++ "\x7benvironment=" ++ quotedLabel s.environment.name ++ ",version=" ++
          quotedLabel s.appVersion ++ "\x7d 1.0"]
      else []

end Metrics

end Qualify
