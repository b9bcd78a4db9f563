import Qualify.Metrics
import Qualify.Source

/-!
# Reloading changed rules

A change of the file schedules a reload some time later; a further change before that puts it off. A
reload that fails leaves the rulebook as it was. A watcher hands the changes of the file on while it
runs, and can be started once.
-/

namespace Qualify

/-- What is told about files. -/
inductive FileChange where
  | modified (path : Location) (isDirectory : Bool)
  | moved (source target : Location) (isDirectory : Bool)
  /-- Something was made, deleted, opened or closed. -/
  | other (path : Location) (isDirectory : Bool)
deriving DecidableEq

/-- What became of a reload that was scheduled. -/
inductive TimerState where
  | pending
  | cancelled
  /-- The time came, and the reload goes on. -/
  | running
  | ended
deriving Repr, DecidableEq

namespace TimerState

/-- Does the timer wait, or its reload go on? -/
def isAlive : TimerState → Bool
  | pending | running => true
  | cancelled | ended => false

/-- What cancelling leaves of a timer: a reload that goes on is not stopped. -/
def cancel : TimerState → TimerState
  | pending => cancelled
  | s => s

end TimerState

/-- The reloads that were scheduled for a file, in the order of their scheduling. -/
structure ReloadSchedule where
  timers : List TimerState := []
  /-- The timer that the next change or a cancellation ends. -/
  current : Option Nat := none
deriving DecidableEq

namespace ReloadSchedule

def isPending (s : ReloadSchedule) : Bool :=
  s.current.any fun n => s.timers[n]? == some .pending

/-- The timers with one of them cancelled, if there is one to cancel. -/
def cancelTimer (ts : List TimerState) : Option Nat → List TimerState
  | some n => ts.modify n TimerState.cancel
  | none => ts

/-- A reload in place of the one that is current, if that is alive. -/
def schedule (s : ReloadSchedule) : ReloadSchedule :=
  let alive := s.current.filter fun n => s.timers[n]?.any TimerState.isAlive
  let timers := cancelTimer s.timers alive
  ⟨timers ++ [.pending], some timers.length⟩

def cancel (s : ReloadSchedule) : ReloadSchedule := ⟨cancelTimer s.timers s.current, none⟩

/-- The time of a timer comes, and its reload begins. -/
def fire (s : ReloadSchedule) (n : Nat) : ReloadSchedule :=
  if s.timers[n]? = some .pending then { s with timers := s.timers.set n .running } else s

/-- The reload of a timer comes to its end. -/
def finish (s : ReloadSchedule) (n : Nat) : ReloadSchedule :=
  if s.timers[n]? = some .running then { s with timers := s.timers.set n .ended } else s

end ReloadSchedule

/-- Is this a change of the file with a name, wherever that is? -/
def FileChange.concerns (c : FileChange) (name : String) : Bool :=
  match c with
  | .modified path isDirectory => !isDirectory && path.name == name
  | .moved _ target isDirectory => !isDirectory && target.name == name
  | .other .. => false

def FileChange.event? : FileChange → Option Event
  | .modified .. => some .changeDetected
  | .moved .. => some .replacementDetected
  | .other .. => none

structure ReloadHandler where
  /-- The name of the file whose changes count. -/
  name : String
  schedule : ReloadSchedule := {}

namespace ReloadHandler

def handle (h : ReloadHandler) (c : FileChange) : ReloadHandler :=
  if c.concerns h.name then { h with schedule := h.schedule.schedule } else h

def events (h : ReloadHandler) (c : FileChange) : List Event :=
  if c.concerns h.name then c.event?.toList else []

def cancel (h : ReloadHandler) : ReloadHandler := { h with schedule := h.schedule.cancel }

end ReloadHandler

/-! ## Reloads -/

namespace Source

/-- The outcome of a reload: whether there is a new rulebook. What is no fault of the library goes
through. -/
def reload (s : Source) (state : FileState) : Except LoadFault (Source × Bool) :=
  match s.load state with
  | .ok (s, _) => .ok (s, true)
  | .error f => if (f.fault? s.path).isSome then .ok (s, false) else .error f

def reloadEvents (s : Source) (state : FileState) : List Event :=
  loadEvents state ++
    match s.reload state with
    | .ok (_, true) => [.reloaded]
    | .ok (_, false) => [.reloadFailed]
    | .error _ => []

def reloadStatus (succeeded : Bool) : String := if succeeded then "success" else "failure"

def configType : String := "scoring_rules"

/-- What a reload of some duration measures: nothing if a fault goes through. -/
def reloadMeasurements (s : Source) (state : FileState) (duration : Value) : List Measurement :=
  match s.reload state with
  | .ok (_, succeeded) => [.reload (.text configType) duration (.text (reloadStatus succeeded))]
  | .error _ => []

end Source

/-! ## Watchers -/

/-- A thread runs once at most. -/
inductive ObserverState where
  | new
  | running
  | ended
deriving Repr, DecidableEq

/-- The thread that observes the folder of a file. While it runs, it hands changes on to the handler
that is scheduled with it. -/
structure Observer where
  state : ObserverState := .new
  hasHandler : Bool := false
deriving DecidableEq

/-- Why a watcher cannot start: its thread has run before. -/
inductive WatchFault where
  | startedTwice
deriving DecidableEq

def WatchFault.message : WatchFault → String
  | .startedTwice => "threads can only be started once"

namespace Observer

def schedule (o : Observer) : Observer := { o with hasHandler := true }

def start (o : Observer) : Except WatchFault Observer :=
  match o.state with
  | .new => .ok { o with state := .running }
  | .running | .ended => .error .startedTwice

/-- The thread ends and lets its handler go. -/
def stop (_ : Observer) : Observer := ⟨.ended, false⟩

end Observer

structure Watcher where
  handler : ReloadHandler
  observer : Observer := {}
  isRunning : Bool := false

namespace Watcher

def start (w : Watcher) : Except WatchFault Watcher :=
  if w.isRunning then .ok w
  else do
    let observer ← w.observer.schedule.start
    return { w with observer, isRunning := true }

def startEvents (w : Watcher) : List Event :=
  if w.isRunning then [.watcherRunning]
  else match w.start with
    | .ok _ => [.watchStarted]
    | .error _ => []

/-- A watcher that runs stops, and what is scheduled is cancelled. -/
def stop (w : Watcher) : Watcher :=
  if w.isRunning then ⟨w.handler.cancel, w.observer.stop, false⟩ else w

def stopEvents (w : Watcher) : List Event := if w.isRunning then [.watchStopped] else []

end Watcher

end Qualify
