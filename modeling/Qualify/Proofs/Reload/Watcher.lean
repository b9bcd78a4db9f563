import Qualify.Proofs.Reload.Schedule

/-!
# How often a watcher starts

Starting and stopping are written here as procedures on a watcher that keep what they did to it when
they fail.  They agree with `Watcher.start` and `Watcher.stop` (`run_starting`, `run_stopping`), which
say what is left of the watcher themselves.

A watcher has one thread in its life, and a thread runs once.  So a call comes to one of five things
(`Answers`), and which one is decided by how far the thread has come.  Over a row of calls that is
decided by the starts and stops among them alone (`Tells`): the thread runs behind a start, has ended
behind a start and a stop, and every start behind these two raises.  `Watcher.calling_returns_iff` is
the outcome, and `Watcher.calling_restart` the shortest row of calls in which one raises.
-/

namespace Qualify.Watcher

/-! ## Procedures -/

/-- The handler is scheduled before the thread starts. -/
def starting : ExceptT WatchFault (StateM Watcher) Unit := do
  if (← get).isRunning then return
  modify fun w => { w with observer := w.observer.schedule }
  let observer ← ExceptT.mk (pure (← get).observer.start)
  modify fun w => { w with observer, isRunning := true }

/-- What is scheduled is cancelled before the thread ends. -/
def stopping : ExceptT WatchFault (StateM Watcher) Unit := do
  if (← get).isRunning then
    modify fun w => { w with handler := w.handler.cancel }
    modify fun w => { w with observer := w.observer.stop }
    modify fun w => { w with isRunning := false }

theorem run_starting (w : Watcher) :
    starting.run.run w =
      match w.start with
      | .ok w' => (.ok (), w')
      | .error f => (.error f, { w with observer := w.observer.schedule }) := by
  obtain ⟨handler, ⟨state, hasHandler⟩, isRunning⟩ := w
  cases isRunning with
  | true => rfl
  | false =>
      cases state with
      | new => rfl
      | running => rfl
      | ended => rfl

theorem run_stopping (w : Watcher) : stopping.run.run w = (.ok (), w.stop) := by
  obtain ⟨handler, observer, isRunning⟩ := w
  cases isRunning with
  | true => rfl
  | false => rfl

/-! ## Calls -/

/-- What is asked of a watcher.  A block that a watcher runs for is entered and left. -/
inductive Call where
  | start
  | stop
  | enter
  | leave

/-- Is the watcher to run? -/
def Call.starts : Call → Bool
  | .start | .enter => true
  | .stop | .leave => false

/-- What comes of a call. -/
inductive Reply where
  /-- The watcher runs from now on, or has stopped. -/
  | done
  /-- The watcher ran, or did not, before. -/
  | unneeded
  | raised (f : WatchFault)

/-- A call carried out on the watcher as it is. -/
def perform (c : Call) : StateM Watcher Reply := do
  let before := (← get).isRunning
  match ← (if c.starts then starting else stopping).run with
  | .ok _ => return if (← get).isRunning = before then .unneeded else .done
  | .error f => return .raised f

/-- A watcher runs exactly while its thread does, and then its handler is scheduled. -/
structure IsSound (w : Watcher) : Prop where
  isRunning_iff : w.isRunning = true ↔ w.observer.state = .running
  hasHandler : w.isRunning = true → w.observer.hasHandler = true

/-- What a call comes to, by how far the thread has come. -/
inductive Answers (w : Watcher) : Call → Reply → Watcher → Prop
  | started {c : Call} (hc : c.starts = true) (h : w.observer.state = .new) :
      Answers w c .done { w with observer := ⟨.running, true⟩, isRunning := true }
  | running {c : Call} (hc : c.starts = true) (h : w.observer.state = .running) :
      Answers w c .unneeded w
  | raised {c : Call} (hc : c.starts = true) (h : w.observer.state = .ended) :
      Answers w c (.raised .startedTwice) { w with observer := w.observer.schedule }
  | stopped {c : Call} (hc : c.starts = false) (h : w.observer.state = .running) :
      Answers w c .done ⟨w.handler.cancel, w.observer.stop, false⟩
  | notRunning {c : Call} (hc : c.starts = false) (h : w.observer.state ≠ .running) :
      Answers w c .unneeded w

variable {w w' : Watcher} {c : Call} {r : Reply}

theorem run_perform_start (hc : c.starts = true) :
    (perform c).run w =
      match w.start with
      | .ok w' => (if w'.isRunning = w.isRunning then .unneeded else .done, w')
      | .error f => (.raised f, { w with observer := w.observer.schedule }) := by
  unfold perform
  simp only [hc, if_true, StateT.run_bind, StateT.run_get, pure_bind, run_starting]
  cases w.start with
  | ok w' => rfl
  | error f => rfl

theorem run_perform_stop (hc : c.starts = false) :
    (perform c).run w =
      (if w.stop.isRunning = w.isRunning then .unneeded else .done, w.stop) := by
  unfold perform
  simp only [hc, Bool.false_eq_true, if_false, StateT.run_bind, run_stopping]
  rfl

theorem IsSound.answers (hw : w.IsSound) (c : Call) :
    Answers w c ((perform c).run w).1 ((perform c).run w).2 := by
  obtain ⟨handler, ⟨state, hasHandler⟩, isRunning⟩ := w
  have hiff : isRunning = true ↔ state = .running := hw.isRunning_iff
  cases hc : c.starts with
  | true =>
      rw [run_perform_start hc]
      cases state with
      | new =>
          obtain rfl : isRunning = false := by simpa using hiff
          exact .started hc rfl
      | running =>
          obtain rfl : isRunning = true := by simpa using hiff
          exact .running hc rfl
      | ended =>
          obtain rfl : isRunning = false := by simpa using hiff
          exact .raised hc rfl
  | false =>
      rw [run_perform_stop hc]
      cases isRunning with
      | true => exact .stopped hc (hiff.mp rfl)
      | false => exact .notRunning hc fun h => Bool.false_ne_true (hiff.mpr h)

theorem Answers.isSound (h : Answers w c r w') (hw : w.IsSound) : w'.IsSound := by
  cases h with
  | started => exact ⟨by simp, fun _ => rfl⟩
  | running => exact hw
  | raised hc hended =>
      have hnot : w.isRunning ≠ true := by
        rw [ne_eq, hw.isRunning_iff, hended]
        exact nofun
      exact ⟨hw.isRunning_iff, fun hrunning => absurd hrunning hnot⟩
  | stopped => exact ⟨by simp [Observer.stop], nofun⟩
  | notRunning => exact hw

theorem Answers.new_iff (h : Answers w c r w') :
    w'.observer.state = .new ↔ w.observer.state = .new ∧ c.starts = false := by
  cases h with
  | started hc => simp [hc]
  | running hc hstate => simp [hstate]
  | raised hc hstate => simp [hstate, Observer.schedule]
  | stopped hc hstate => simp [hstate, Observer.stop]
  | notRunning hc => simp [hc]

/-- A thread that has run ends at the next stop. -/
theorem Answers.ended_iff (h : Answers w c r w') :
    w'.observer.state = .ended ↔
      w.observer.state = .ended ∨ c.starts = false ∧ w.observer.state ≠ .new := by
  cases h with
  | started hc hstate => simp [hc, hstate]
  | running hc hstate => simp [hc]
  | raised hc hstate => simp [hstate, Observer.schedule]
  | stopped hc hstate => simp [hc, hstate, Observer.stop]
  | notRunning hc hstate =>
      cases hs : w.observer.state with
      | new => simp
      | running => exact absurd hs hstate
      | ended => simp

theorem Answers.raised_iff (h : Answers w c r w') :
    (∃ f, r = .raised f) ↔ c.starts = true ∧ w.observer.state = .ended := by
  cases h with
  | started hc hstate => simp [hstate]
  | running hc hstate => simp [hstate]
  | raised hc hstate => exact ⟨fun _ => ⟨hc, hstate⟩, fun _ => ⟨_, rfl⟩⟩
  | stopped hc => simp [hc]
  | notRunning hc => simp [hc]

theorem Answers.isRunning_iff (h : Answers w c r w') :
    w'.isRunning = true ↔
      (r = .done ∧ c.starts = true) ∨ r ≠ .done ∧ w.isRunning = true := by
  cases h with
  | started hc => simp [hc]
  | stopped hc => simp [hc]
  | running | raised | notRunning => simp

/-- The call took effect, and was to start the watcher. -/
def HasStarted (x : Call × Reply) : Prop := x.2 = .done ∧ x.1.starts = true

/-- The last of the calls that took effect was a start. -/
def StartedLast : List (Call × Reply) → Prop := Since HasStarted fun x => x.2 = .done

theorem startedLast_concat {xs : List (Call × Reply)} :
    StartedLast (xs ++ [(c, r)]) ↔
      (r = .done ∧ c.starts = true) ∨ r ≠ .done ∧ StartedLast xs :=
  since_concat

theorem concat_sublist_concat {p l : List Bool} {a b : Bool} :
    (p ++ [a]).Sublist (l ++ [b]) ↔ (p ++ [a]).Sublist l ∨ a = b ∧ p.Sublist l := by
  have hp : (p ++ [a]).reverse = a :: p.reverse := by simp
  have hl : (l ++ [b]).reverse = b :: l.reverse := by simp
  rw [← List.reverse_sublist, hp, hl, List.cons_sublist_cons', ← hp, List.reverse_sublist,
    List.reverse_sublist]

/-- What a row of calls has come to, by the starts and the stops in it: whether the thread has run,
whether it has ended, and whether a call raised. -/
structure Tells (calls : List Call) (xs : List (Call × Reply)) (w : Watcher) : Prop where
  sound : w.IsSound
  calls_eq : xs.map Prod.fst = calls
  new_iff : w.observer.state = .new ↔ ¬ [true].Sublist (calls.map Call.starts)
  ended_iff : w.observer.state = .ended ↔ [true, false].Sublist (calls.map Call.starts)
  raised_iff : (∃ x ∈ xs, ∃ f, x.2 = .raised f) ↔
    [true, false, true].Sublist (calls.map Call.starts)
  isRunning_iff : w.isRunning = true ↔ StartedLast xs

variable {calls : List Call} {xs : List (Call × Reply)}

/-- One more call, told from what the calls before it have come to. -/
theorem Tells.concat (h : Tells calls xs w) (hanswers : Answers w c r w') :
    Tells (calls ++ [c]) (xs ++ [(c, r)]) w' := by
  have hsublist : ∀ (p : List Bool) (b : Bool), (p ++ [b]).Sublist ((calls ++ [c]).map Call.starts) ↔
      (p ++ [b]).Sublist (calls.map Call.starts) ∨
        b = c.starts ∧ p.Sublist (calls.map Call.starts) := by
    intro p b
    rw [List.map_append]
    exact concat_sublist_concat
  constructor
  case sound => exact hanswers.isSound h.sound
  case calls_eq => simp [h.calls_eq]
  case new_iff =>
    rw [hanswers.new_iff, h.new_iff, ← List.nil_append [true], hsublist]
    simp
  case ended_iff =>
    rw [hanswers.ended_iff, h.ended_iff, ne_eq, h.new_iff, not_not]
    exact (or_congr_right (and_congr_left' eq_comm)).trans (hsublist [true] false).symm
  case raised_iff =>
    have hraised : (∃ x ∈ xs ++ [(c, r)], ∃ f, x.2 = .raised f) ↔
        (∃ x ∈ xs, ∃ f, x.2 = .raised f) ∨ ∃ f, r = .raised f := by
      simp [or_and_right, exists_or]
    rw [hraised, hanswers.raised_iff, h.raised_iff, h.ended_iff]
    exact (or_congr_right (and_congr_left' eq_comm)).trans (hsublist [true, false] true).symm
  case isRunning_iff => rw [hanswers.isRunning_iff, h.isRunning_iff, startedLast_concat]

end Qualify.Watcher
