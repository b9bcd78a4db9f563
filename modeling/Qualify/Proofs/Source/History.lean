import Mathlib.Data.List.Induction
import Qualify.Proofs.Reload

/-!
# What a source serves over time

Loading and reloading are written here as procedures on a source that keep what they did to it when
they fail, so that a failure after a change would show.  They agree with `Source.load` and
`Source.reload` (`run_loading`, `run_reloading`), which say what is left of the source themselves.

A history is any list of requests, each with what stands in the file at its time.  What one request
does is `Answers`, a relation between what is served before it, its reply and what is served after
it; `perform_after` says that every request of every history is answered so, and that what is served
is what the history validated last.
-/

namespace Qualify

/-- A file holds data, and these are well as a rulebook. -/
def Rulebook.IsValidatedFrom (b : Rulebook) (state : FileState) : Prop :=
  ∃ v, dataOf state = .ok v ∧ Check.rulebook v = .valid b

namespace Source

/-! ## Procedures -/

/-- The rulebook of the file is read in full before it is published. -/
def loading (state : FileState) : ExceptT LoadFault (StateM Source) Rulebook := do
  let b ← ExceptT.mk (pure (Rulebook.ofFile state))
  modify fun s => s.publish b
  return b

/-- Loading, with a fault that can be reported turned into an answer. -/
def reloading (state : FileState) : ExceptT LoadFault (StateM Source) Bool :=
  tryCatch (do
    discard (loading state)
    return true) fun f => do
      if (f.fault? (← get).path).isSome then return false else throw f

variable {s t : Source} {state : FileState}

theorem run_loading (s : Source) (state : FileState) :
    (loading state).run.run s =
      match s.load state with
      | .ok (t, b) => (.ok b, t)
      | .error f => (.error f, s) := by
  unfold loading load
  cases Rulebook.ofFile state with
  | ok b => rfl
  | error f => rfl

theorem run_reloading (s : Source) (state : FileState) :
    (reloading state).run.run s =
      match s.reload state with
      | .ok (t, succeeded) => (.ok succeeded, t)
      | .error f => (.error f, s) := by
  unfold reloading reload loading load
  cases Rulebook.ofFile state with
  | ok b => rfl
  | error f =>
      show StateT.run (ExceptT.run (if (f.fault? s.path).isSome then _ else _)) s = _
      cases h : (f.fault? s.path).isSome with
      | true => simp [h]; rfl
      | false => simp [h]; rfl

/-! ## Requests -/

/-- What is asked of a source, with what stands in its file at the time. -/
inductive Request where
  | load (state : FileState)
  | reload (state : FileState)
  | evaluate (e : Engine) (cells : Cells) (id lead : Value)

/-- What comes back, be it a result or a fault. -/
inductive Reply where
  | loaded (b : Rulebook)
  | reloaded (succeeded : Bool)
  | evaluated (v : Evaluation)
  | loadFault (f : LoadFault)
  | sourceFault (f : SourceFault)

/-- A request carried out on the source as it is. -/
def perform : Request → StateM Source Reply
  | .load state => do
    match ← (loading state).run with
    | .ok b => return .loaded b
    | .error f => return .loadFault f
  | .reload state => do
    match ← (reloading state).run with
    | .ok succeeded => return .reloaded succeeded
    | .error f => return .loadFault f
  | .evaluate e cells id lead => do
    match (← get).evaluate e cells id lead with
    | .ok v => return .evaluated v
    | .error f => return .sourceFault f

/-- The source after a history of requests. -/
def after (s : Source) (history : List Request) : Source :=
  history.foldl (fun s r => ((perform r).run s).2) s

theorem after_concat (s : Source) (history : List Request) (r : Request) :
    s.after (history ++ [r]) = ((perform r).run (s.after history)).2 := by
  simp [after]

/-- The rulebook that a request finds in the file, if there is one. -/
def Request.validated? : Request → Option Rulebook
  | .load state | .reload state => (Rulebook.ofFile state).toOption
  | .evaluate .. => none

/-- The rulebook that a history found last. -/
def lastValidated (history : List Request) : Option Rulebook :=
  (history.filterMap Request.validated?).getLast?

theorem lastValidated_concat (history : List Request) (r : Request) :
    lastValidated (history ++ [r]) = r.validated?.or (lastValidated history) := by
  unfold lastValidated
  rw [List.filterMap_append]
  cases h : r.validated? with
  | none => simp [h]
  | some b => simp [h]

/-! ## What a request does -/

/-- An evaluation of a lead with the scorecard and the rules that one rulebook has for one team. -/
def Evaluates (b : Rulebook) (e : Engine) (cells : Cells) (id lead : Value) (v : Evaluation) :
    Prop :=
  ∃ name t, id.toText = .ok name ∧ b.team? name = some t ∧
    v = e.evaluate cells lead (.scorecard t.scorecard) (.list (t.rules.map Rule.toValue))

/-- The reply to a request, and what is served after it, for a source that serves some rulebook or
none. -/
inductive Answers (path : Location) (served : Option Rulebook) :
    Request → Reply → Option Rulebook → Prop
  | loaded {state : FileState} {b : Rulebook} (h : b.IsValidatedFrom state) :
      Answers path served (.load state) (.loaded b) (some b)
  | notLoaded {state : FileState} {f : LoadFault} (h : ∀ b : Rulebook, ¬ b.IsValidatedFrom state) :
      Answers path served (.load state) (.loadFault f) served
  | reloaded {state : FileState} {b : Rulebook} (h : b.IsValidatedFrom state) :
      Answers path served (.reload state) (.reloaded true) (some b)
  | notReloaded {state : FileState} (h : ∀ b : Rulebook, ¬ b.IsValidatedFrom state) :
      Answers path served (.reload state) (.reloaded false) served
  | escaped {state : FileState} {f : LoadFault} (h : ∀ b : Rulebook, ¬ b.IsValidatedFrom state) :
      Answers path served (.reload state) (.loadFault f) served
  | evaluated {e : Engine} {cells : Cells} {id lead : Value} {b : Rulebook} {v : Evaluation}
      (hb : served = some b) (hv : Evaluates b e cells id lead v) :
      Answers path served (.evaluate e cells id lead) (.evaluated v) served
  | noTeam {e : Engine} {cells : Cells} {id lead : Value} {b : Rulebook} {f : SourceFault}
      (hb : served = some b) (hv : ∀ v, ¬ Evaluates b e cells id lead v) :
      Answers path served (.evaluate e cells id lead) (.sourceFault f) served
  | notServed {e : Engine} {cells : Cells} {id lead : Value} (hb : served = none) :
      Answers path served (.evaluate e cells id lead) (.sourceFault (.notLoaded path)) served

theorem isValidatedFrom_iff {b : Rulebook} :
    b.IsValidatedFrom state ↔ Rulebook.ofFile state = .ok b := Rulebook.ofFile_eq_ok_iff.symm

theorem not_isValidatedFrom {f : LoadFault} (h : Rulebook.ofFile state = .error f) (b : Rulebook) :
    ¬ b.IsValidatedFrom state := by
  intro hb
  rw [isValidatedFrom_iff, h] at hb
  cases hb

theorem team_eq_ok_iff {id : Value} {t : Team} :
    s.team id = .ok t ↔
      ∃ b name, s.served = some b ∧ id.toText = .ok name ∧ b.team? name = some t := by
  unfold team rulebook
  cases s.served with
  | none => simp [bind, Except.bind]
  | some b =>
      rw [Except.ok_bind]
      cases id.toText with
      | error f => simp
      | ok name =>
          cases ht : b.team? name with
          | none => simp [ht]
          | some u => simp [ht]

theorem team_of_not_served {id : Value} (h : s.served = none) :
    s.team id = .error (.notLoaded s.path) := by
  simp only [team, rulebook, h]
  rfl

theorem evaluate_eq_ok_iff {e : Engine} {cells : Cells} {id lead : Value} {v : Evaluation} :
    s.evaluate e cells id lead = .ok v ↔
      ∃ b, s.served = some b ∧ Evaluates b e cells id lead v := by
  unfold evaluate Evaluates
  simp only [Except.bind_eq_ok_iff, team_eq_ok_iff, Except.pure_eq_ok_iff]
  constructor
  · rintro ⟨t, ⟨b, name, hb, hname, ht⟩, rfl⟩
    exact ⟨b, hb, name, t, hname, ht, rfl⟩
  · rintro ⟨b, hb, name, t, hname, ht, rfl⟩
    exact ⟨t, ⟨b, name, hb, hname, ht⟩, rfl⟩

theorem evaluate_of_not_served {e : Engine} {cells : Cells} {id lead : Value}
    (h : s.served = none) : s.evaluate e cells id lead = .error (.notLoaded s.path) := by
  unfold evaluate
  rw [team_of_not_served h]
  rfl

/-! ## One step -/

theorem perform_load_of_ok {b : Rulebook} (h : Rulebook.ofFile state = .ok b) :
    (perform (.load state)).run s = (.loaded b, s.publish b) := by
  unfold perform
  rw [StateT.run_bind, run_loading, load_eq_ok_iff.mpr ⟨h, rfl⟩]
  rfl

theorem perform_load_of_error {f : LoadFault} (h : Rulebook.ofFile state = .error f) :
    (perform (.load state)).run s = (.loadFault f, s) := by
  unfold perform
  rw [StateT.run_bind, run_loading, load_eq_error_iff.mpr h]
  rfl

theorem perform_reload_of_ok {b : Rulebook} (h : Rulebook.ofFile state = .ok b) :
    (perform (.reload state)).run s = (.reloaded true, s.publish b) := by
  unfold perform
  rw [StateT.run_bind, run_reloading, reload_of_load_ok (load_eq_ok_iff.mpr ⟨h, rfl⟩)]
  rfl

theorem perform_reload_of_error {f : LoadFault} (h : Rulebook.ofFile state = .error f) :
    (perform (.reload state)).run s =
      (if (f.fault? s.path).isSome then .reloaded false else .loadFault f, s) := by
  unfold perform
  rw [StateT.run_bind, run_reloading, reload_of_load_error (load_eq_error_iff.mpr h)]
  cases (f.fault? s.path).isSome with
  | true => rfl
  | false => rfl

theorem run_perform_evaluate (s : Source) (e : Engine) (cells : Cells) (id lead : Value) :
    (perform (.evaluate e cells id lead)).run s =
      match s.evaluate e cells id lead with
      | .ok v => (.evaluated v, s)
      | .error f => (.sourceFault f, s) := by
  unfold perform
  show StateT.run (match s.evaluate e cells id lead with | .ok v => _ | .error f => _) s = _
  cases s.evaluate e cells id lead with
  | ok v => rfl
  | error f => rfl

/-- One request is answered from what is served, and what it leaves is served at the same path. -/
theorem answers_perform (s : Source) (r : Request) :
    ((perform r).run s).2.path = s.path ∧
      Answers s.path s.served r ((perform r).run s).1 ((perform r).run s).2.served := by
  cases r with
  | load state =>
      cases h : Rulebook.ofFile state with
      | ok b =>
          rw [perform_load_of_ok h]
          exact ⟨rfl, .loaded (isValidatedFrom_iff.mpr h)⟩
      | error f =>
          rw [perform_load_of_error h]
          exact ⟨rfl, .notLoaded (not_isValidatedFrom h)⟩
  | reload state =>
      cases h : Rulebook.ofFile state with
      | ok b =>
          rw [perform_reload_of_ok h]
          exact ⟨rfl, .reloaded (isValidatedFrom_iff.mpr h)⟩
      | error f =>
          rw [perform_reload_of_error h]
          refine ⟨rfl, ?_⟩
          dsimp only
          split
          · exact .notReloaded (not_isValidatedFrom h)
          · exact .escaped (not_isValidatedFrom h)
  | evaluate e cells id lead =>
      rw [run_perform_evaluate]
      cases h : s.evaluate e cells id lead with
      | ok v =>
          obtain ⟨b, hb, hv⟩ := evaluate_eq_ok_iff.mp h
          exact ⟨rfl, .evaluated hb hv⟩
      | error f =>
          refine ⟨rfl, ?_⟩
          cases hs : s.served with
          | none =>
              rw [evaluate_of_not_served hs] at h
              cases h
              exact .notServed rfl
          | some b =>
              refine .noTeam rfl ?_
              intro v hv
              rw [evaluate_eq_ok_iff.mpr ⟨b, hs, hv⟩] at h
              cases h

/-- What a request leaves is what it found in the file, or else what was there. -/
theorem served_perform (s : Source) (r : Request) :
    ((perform r).run s).2.served = r.validated?.or s.served := by
  cases r with
  | load state =>
      cases h : Rulebook.ofFile state with
      | ok b => simp [perform_load_of_ok h, Request.validated?, h, publish, Except.toOption]
      | error f => simp [perform_load_of_error h, Request.validated?, h, Except.toOption]
  | reload state =>
      cases h : Rulebook.ofFile state with
      | ok b => simp [perform_reload_of_ok h, Request.validated?, h, publish, Except.toOption]
      | error f => simp [perform_reload_of_error h, Request.validated?, h, Except.toOption]
  | evaluate e cells id lead =>
      rw [run_perform_evaluate]
      cases s.evaluate e cells id lead with
      | ok v => rfl
      | error f => rfl

/-! ## Histories -/

theorem path_after (s : Source) (history : List Request) : (s.after history).path = s.path := by
  induction history using List.reverseRecOn with
  | nil => rfl
  | append_singleton history r ih => rw [after_concat, (answers_perform _ r).1, ih]

/-- What is served after a history is what it validated last, or else what was served before it. -/
theorem served_after (s : Source) (history : List Request) :
    (s.after history).served = (lastValidated history).or s.served := by
  induction history using List.reverseRecOn with
  | nil => rfl
  | append_singleton history r ih =>
      rw [after_concat, served_perform, ih, lastValidated_concat, Option.or_assoc]

/-- After every history, a source serves what the history validated last, and none if there is no
such and there was none before.  The next request, whatever it is, is answered from that one
rulebook alone, and changes what is served exactly if it validates another. -/
theorem perform_after (s : Source) (history : List Request) (r : Request) :
    (s.after history).rulebook =
        (match (lastValidated history).or s.served with
          | some b => .ok b
          | none => .error (.notLoaded s.path)) ∧
      Answers s.path ((lastValidated history).or s.served) r
        ((perform r).run (s.after history)).1 (s.after (history ++ [r])).served := by
  have hserved := served_after s history
  have hpath := path_after s history
  constructor
  · rw [← hserved, ← hpath]
    rfl
  · rw [after_concat, ← hserved, ← hpath]
    exact (answers_perform (s.after history) r).2

end Source

end Qualify
