import Qualify.Failure

/-!
# Events

What a part of the library reports while it works: each event has a level, a part that reports it
and a wording.
-/

namespace Qualify

inductive Level where
  | debug
  | info
  | warning
  | error
  | critical
deriving Repr, DecidableEq, Inhabited

namespace Level

def name : Level → String
  | debug => "DEBUG"
  | info => "INFO"
  | warning => "WARNING"
  | error => "ERROR"
  | critical => "CRITICAL"

end Level

inductive Event where
  | scorecardRejected
  | teamIncomplete
  | baseScored
  | ruleMalformed
  | definitionInvalid
  | ruleFailed
  | thresholdsInvalid
  | thresholdsUnsupported
  | thresholdsMissing
  | leadScored
  | scoringFailed
  | rulebookLoaded
  | changeDetected
  | replacementDetected
  | reloadFailed
  | reloaded
  | watcherRunning
  | watchStarted
  | watchStopped
  | watchDisabled
deriving Repr, DecidableEq, Inhabited

namespace Event

def level : Event → Level
  | baseScored | ruleMalformed | definitionInvalid | leadScored | watchDisabled => .debug
  | rulebookLoaded | changeDetected | replacementDetected | reloaded | watchStarted
  | watchStopped => .info
  | scorecardRejected | teamIncomplete | ruleFailed | thresholdsInvalid | thresholdsUnsupported
  | thresholdsMissing | watcherRunning => .warning
  | scoringFailed | reloadFailed => .error

/-- The part of the library that reports the event. -/
def reporter : Event → String
  | scorecardRejected | teamIncomplete => "lead_scoring.rules_schema"
  | baseScored => "lead_scoring.base_scorer"
  | ruleMalformed | definitionInvalid | ruleFailed => "lead_scoring.rules_interpreter"
  | thresholdsInvalid | thresholdsUnsupported => "lead_scoring.bands"
  | thresholdsMissing | leadScored | scoringFailed => "lead_scoring.engine"
  | rulebookLoaded => "lead_scoring.rules_loader"
  | changeDetected | replacementDetected | reloadFailed | reloaded | watcherRunning | watchStarted
  | watchStopped | watchDisabled => "lead_scoring.hot_reload"

/-- The domain that every event belongs to. -/
def domain : String := "lead_scoring"

def message : Event → String
  | scorecardRejected => "Scoring config rejected"
  | teamIncomplete => "Team scoring config is incomplete"
  | baseScored => "Base score computed"
  | ruleMalformed => "Skipping malformed rule"
  | definitionInvalid => "Skipping rule with invalid definition"
  | ruleFailed => "Rule evaluation failed, skipping"
  | thresholdsInvalid => "Invalid band thresholds, using defaults"
  | thresholdsUnsupported => "Unsupported band thresholds type, using defaults"
  | thresholdsMissing => "Band thresholds missing, using defaults"
  | leadScored => "Lead evaluated"
  | scoringFailed => "Lead scoring failed, returning degraded result"
  | rulebookLoaded => "Scoring rules loaded"
  | changeDetected => "Detected change in scoring rules"
  | replacementDetected => "Detected replacement of scoring rules"
  | reloadFailed => "Failed to reload scoring rules, keeping previous snapshot"
  | reloaded => "Scoring rules reloaded"
  | watcherRunning => "Watcher already started"
  | watchStarted => "Started watching scoring rules"
  | watchStopped => "Stopped watching scoring rules"
  | watchDisabled => "Hot reload disabled"

end Event

end Qualify
