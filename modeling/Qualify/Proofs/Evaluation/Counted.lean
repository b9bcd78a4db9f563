import Qualify.Metrics
import Qualify.Proofs.Evaluation

/-!
# What is counted about an evaluation

Evaluating is written here as a procedure that tells a collector what there is to count at the very
step where it comes up, so that what was told before a failure stays told, and so that telling itself
could fail.  `Engine.evaluate` and `Engine.counts` say what comes of it (`comes_evaluating`).

`Comes` says what a procedure ends with and what it tells on its way, whatever the collector is.  It
has a law for each way to put procedures together, and with these `run_evaluating` reads off the order
in which things are told: the rules that were skipped, a failure if there was one, and the band.
-/

namespace Qualify

/-- What is measured by a count about an evaluation that takes some time. -/
def Count.measurement (duration : Binary64) : Count → Measurement
  | .ruleSkipped reason => .ruleSkipped (.text reason)
  | .failed kind => .error (.text kind) (.text "lead_scoring")
  | .evaluated band => .evaluation (.text band.name) (.float duration)

/-- The samples that go up with it. -/
def Count.samples (duration : Binary64) : Count → List Sample
  | .ruleSkipped reason => [⟨Metrics.skipped, [("reason", reason)]⟩]
  | .failed kind => [⟨Metrics.errors, [("domain", "lead_scoring"), ("error_type", kind)]⟩]
  | .evaluated band =>
    ⟨Metrics.evaluated, [("band", band.name)]⟩ ::
      Metrics.evaluationSeconds.samples [] duration.toDecimal

/-- What is told about an evaluation has texts for labels and a number for its time, so that it can
always be counted. -/
theorem Count.track_measurement (enabled : Bool) (duration : Binary64) (n : Count) :
    Metrics.track enabled (n.measurement duration) =
      .ok (if enabled then n.samples duration else []) := by
  cases enabled with
  | false => rfl
  | true => cases n <;> rfl

/-- What measurements are told to. -/
structure Collector where
  isEnabled : Bool := true
  /-- What it was told, counted or not. -/
  told : List Measurement := []
  /-- The samples that went up, one after the other. -/
  samples : List Sample := []

/-- The collector behind some counts about an evaluation that takes some time. -/
def Collector.after (s : Collector) (duration : Binary64) (ns : List Count) : Collector :=
  { s with
    told := s.told ++ ns.map (Count.measurement duration)
    samples := s.samples ++ if s.isEnabled then ns.flatMap (Count.samples duration) else [] }

@[simp] theorem Collector.after_nil (s : Collector) (duration : Binary64) :
    s.after duration [] = s := by
  simp [after]

@[simp] theorem Collector.after_after (s : Collector) (duration : Binary64) (ns ms : List Count) :
    (s.after duration ns).after duration ms = s.after duration (ns ++ ms) := by
  cases h : s.isEnabled <;> simp [after, h]

/-- What can end an evaluation early. -/
inductive Raised where
  | scoring (f : Failure)
  | measuring (f : MeasurementFault)

def Raised.kind : Raised → String
  | .scoring f => f.kind
  | .measuring f => f.kind

/-- A procedure that tells a collector what there is to count. -/
abbrev Metered (α : Type) := ExceptT Raised (StateM Collector) α

namespace Metered

variable {α β : Type}

/-- A measurement is handed to the collector, which tries to count it unless it is off. -/
def telling (m : Measurement) : Metered Unit := do
  modify fun s => { s with told := s.told ++ [m] }
  match Metrics.track (← get).isEnabled m with
  | .ok xs => modify fun s => { s with samples := s.samples ++ xs }
  | .error f => throw (.measuring f)

/-- A stage that tells nothing. -/
def silently (x : Except Failure α) : Metered α := ExceptT.mk (pure (x.mapError .scoring))

/-! ## What a procedure comes to -/

/-- The procedure ends with this result, and these counts are what it tells, whatever the collector
is. -/
def Comes (duration : Binary64) (p : Metered α) (r : Except Raised α) (ns : List Count) : Prop :=
  ∀ s : Collector, p.run.run s = (r, s.after duration ns)

variable {duration : Binary64} {p : Metered α} {k : α → Metered β} {a : α} {f : Raised}
variable {r : Except Raised β} {ns ms : List Count}

theorem comes_pure (a : α) : Comes duration (pure a) (.ok a) [] := by
  intro s
  rw [Collector.after_nil]
  rfl

theorem comes_silently (x : Except Failure α) :
    Comes duration (silently x) (x.mapError .scoring) [] := by
  intro s
  rw [Collector.after_nil]
  rfl

theorem comes_telling (n : Count) :
    Comes duration (telling (n.measurement duration)) (.ok ()) [n] := by
  intro s
  show StateT.run (ExceptT.run
    (match Metrics.track s.isEnabled (n.measurement duration) with | .ok _ => _ | .error _ => _)) _ = _
  rw [Count.track_measurement]
  show (Except.ok (), { s with
    told := s.told ++ [n.measurement duration], samples := s.samples ++ _ }) = _
  simp [Collector.after]

theorem Comes.bind (hp : Comes duration p (.ok a) ns) (hk : Comes duration (k a) r ms) :
    Comes duration (p >>= k) r (ns ++ ms) := by
  intro s
  rw [ExceptT.run_bind, StateT.run_bind, hp s, ← Collector.after_after]
  exact hk _

theorem Comes.bind_error (hp : Comes duration p (.error f) ns) :
    Comes duration (p >>= k) (.error f) ns := by
  intro s
  rw [ExceptT.run_bind, StateT.run_bind, hp s]
  rfl

theorem Comes.tryCatch_ok (hp : Comes duration p (.ok a) ns) (k : Raised → Metered α) :
    Comes duration (tryCatch p k) (.ok a) ns := by
  intro s
  rw [ExceptT.run_tryCatch, StateT.run_bind, hp s]
  rfl

theorem Comes.tryCatch_error {k : Raised → Metered α} {r : Except Raised α}
    (hp : Comes duration p (.error f) ns) (hk : Comes duration (k f) r ms) :
    Comes duration (tryCatch p k) r (ns ++ ms) := by
  intro s
  rw [ExceptT.run_tryCatch, StateT.run_bind, hp s, ← Collector.after_after]
  exact hk _

/-- One count for each item of a list is told in the order of the list. -/
theorem comes_forM {γ : Type} (xs : List γ) (count : γ → Count) :
    Comes duration (xs.forM fun x => telling ((count x).measurement duration)) (.ok ())
      (xs.map count) := by
  induction xs with
  | nil => exact comes_pure ()
  | cons x xs ih => exact (comes_telling (count x)).bind ih

end Metered

open Metered

namespace Engine

/-! ## Evaluating -/

/-- The rules that were skipped are told before the sum is brought between its bounds. -/
def scoring (e : Engine) (cells : Cells) (lead config rules : Value) : Metered Evaluation :=
  match Scorecard.ofValue? config with
  | none => return .withoutScorecard
  | some c => do
    let (base, a) ← silently (e.appraise cells lead c rules)
    (a.skipped.filterMap Outcome.skipReason?).forM fun r => telling (.ruleSkipped (.text r.name))
    silently (conclude c base a)

/-- What ended the scoring early is told and makes for a result. -/
def degrading (f : Raised) : Metered Evaluation := do
  telling (.error (.text f.kind) (.text "lead_scoring"))
  return { tags := [Tag.scoringError], baseTrace := ["Scoring failed: " ++ f.kind] }

def evaluating (e : Engine) (cells : Cells) (lead config rules : Value) (duration : Binary64) :
    Metered Evaluation := do
  let v ← tryCatch (e.scoring cells lead config rules) degrading
  telling (.evaluation (.text v.band.name) (.float duration))
  return v

variable {e : Engine} {cells : Cells} {lead config rules : Value} {duration : Binary64}
variable {ns : List Count} {f : Failure} {v : Evaluation}

theorem comes_degrading (f : Failure) :
    Comes duration (degrading (.scoring f)) (.ok (.degraded f)) [.failed f.kind] :=
  (comes_telling (.failed f.kind)).bind (comes_pure _)

theorem comes_evaluating_of
    (h : Comes duration (tryCatch (e.scoring cells lead config rules) degrading) (.ok v) ns) :
    Comes duration (e.evaluating cells lead config rules duration) (.ok v)
      (ns ++ [.evaluated v.band]) :=
  h.bind ((comes_telling (.evaluated v.band)).bind (comes_pure v))

theorem comes_evaluating_of_ok (h : Comes duration (e.scoring cells lead config rules) (.ok v) ns) :
    Comes duration (e.evaluating cells lead config rules duration) (.ok v)
      (ns ++ [.evaluated v.band]) :=
  comes_evaluating_of (h.tryCatch_ok degrading)

theorem comes_evaluating_of_error
    (h : Comes duration (e.scoring cells lead config rules) (.error (.scoring f)) ns) :
    Comes duration (e.evaluating cells lead config rules duration) (.ok (.degraded f))
      (ns ++ [.failed f.kind, .evaluated .low]) := by
  have htold := comes_evaluating_of (h.tryCatch_error (comes_degrading f))
  rw [List.append_assoc] at htold
  exact htold

theorem comes_scoring {c : Scorecard} {base : BaseScore} {a : Application}
    (hc : Scorecard.ofValue? config = some c) (ha : e.appraise cells lead c rules = .ok (base, a)) :
    Comes duration (e.scoring cells lead config rules) ((conclude c base a).mapError .scoring)
      ((a.skipped.filterMap Outcome.skipReason?).map fun r => .ruleSkipped r.name) := by
  have happraise : Comes duration (silently (e.appraise cells lead c rules)) (.ok (base, a)) [] := by
    rw [ha]
    exact comes_silently _
  have htold : Comes duration _ (.ok ()) _ :=
    comes_forM (a.skipped.filterMap Outcome.skipReason?) fun r => .ruleSkipped r.name
  have hrest := htold.bind (k := fun _ => silently (conclude c base a)) (comes_silently _)
  rw [List.append_nil] at hrest
  simp only [scoring, hc]
  exact happraise.bind hrest

/-- The procedure has the result of the evaluation, and its counts are what it tells. -/
theorem comes_evaluating (e : Engine) (cells : Cells) (lead config rules : Value)
    (duration : Binary64) :
    Comes duration (e.evaluating cells lead config rules duration)
      (.ok (e.evaluate cells lead config rules)) (e.counts cells lead config rules) := by
  unfold evaluate counts assess
  cases hc : Scorecard.ofValue? config with
  | none =>
      have hscoring : Comes duration (e.scoring cells lead config rules) (.ok .withoutScorecard) [] := by
        simp only [scoring, hc]
        exact comes_pure _
      exact comes_evaluating_of_ok hscoring
  | some c =>
      dsimp only
      cases happraise : e.appraise cells lead c rules with
      | error f =>
          have hscoring : Comes duration (e.scoring cells lead config rules)
              (.error (.scoring f)) [] := by
            simp only [scoring, hc, happraise]
            exact (comes_silently (.error f)).bind_error
          exact comes_evaluating_of_error hscoring
      | ok ba =>
          obtain ⟨base, a⟩ := ba
          have hscoring : Comes duration _ _ _ := comes_scoring hc happraise
          simp only [Except.ok_bind]
          cases hconclude : conclude c base a with
          | error f =>
              rw [hconclude] at hscoring
              exact comes_evaluating_of_error hscoring
          | ok v =>
              rw [hconclude] at hscoring
              exact comes_evaluating_of_ok hscoring

/-! ## What is told -/

/-- The outcomes of rules that were skipped have the reasons of all outcomes that have one. -/
theorem reasons_of_conclude {c : Scorecard} {base : BaseScore} {a : Application}
    (h : conclude c base a = .ok v) :
    a.skipped.filterMap Outcome.skipReason? = v.outcomes.filterMap Outcome.skipReason? := by
  obtain ⟨-, -, -, -, -, -, houtcomes⟩ := conclude_eq_ok_iff.mp h
  rw [houtcomes, Application.skipped, List.filterMap_filter]
  refine List.filterMap_congr fun o _ => ?_
  cases h : o.skipReason? with
  | none => rfl
  | some r => rfl

theorem exists_counts_eq (e : Engine) (cells : Cells) (lead config rules : Value) :
    ∃ (reasons : List SkipReason) (error? : Option String),
      e.counts cells lead config rules = reasons.map (fun r => .ruleSkipped r.name) ++
        error?.toList.map .failed ++ [.evaluated (e.evaluate cells lead config rules).band] ∧
      (∀ kind, error? = some kind ↔
        ∃ c f, Scorecard.ofValue? config = some c ∧ e.Stops cells lead c rules f ∧ f.kind = kind) ∧
      (error? = none →
        reasons = (e.evaluate cells lead config rules).outcomes.filterMap Outcome.skipReason?) ∧
      (Scorecard.ofValue? config = none → reasons = [] ∧ error? = none) := by
  simp only [← assess_eq_error_iff]
  unfold counts evaluate
  cases hc : Scorecard.ofValue? config with
  | none => exact ⟨[], none, rfl, by simp, fun _ => rfl, fun _ => ⟨rfl, rfl⟩⟩
  | some c =>
      dsimp only
      cases happraise : e.appraise cells lead c rules with
      | error f =>
          have hassess : e.assess cells lead c rules = .error f := by
            simp only [assess, Except.bind_eq_error_iff, happraise, true_or]
          exact ⟨[], some f.kind, by simp [hassess, Evaluation.degraded], by simp [hassess],
            nofun, nofun⟩
      | ok ba =>
          obtain ⟨base, a⟩ := ba
          have hassess : e.assess cells lead c rules = conclude c base a := by
            simp only [assess, happraise, Except.ok_bind]
          dsimp only
          rw [hassess]
          -- the rules that were skipped are told before the last stage, whatever comes of that
          refine ⟨a.skipped.filterMap Outcome.skipReason?, ?_⟩
          cases hconclude : conclude c base a with
          | error f =>
              exact ⟨some f.kind, by simp [Evaluation.degraded], by simp [hassess, hconclude],
                nofun, nofun⟩
          | ok v =>
              exact ⟨none, by simp, by simp [hassess, hconclude],
                fun _ => reasons_of_conclude hconclude, nofun⟩

/-- Whatever collector an evaluation tells, it has the result that there is without one, and tells the
same: the rules that were skipped, then a failure exactly if the evaluation under the scorecard stops
with one, and the band of the result last.  Unless there is a failure, the rules told are those that
the result shows as skipped, in its order, and without a scorecard there are none. -/
theorem run_evaluating (e : Engine) (cells : Cells) (lead config rules : Value)
    (duration : Binary64) :
    ∃ (reasons : List SkipReason) (error? : Option String),
      (∀ s : Collector, (e.evaluating cells lead config rules duration).run.run s =
        (.ok (e.evaluate cells lead config rules),
          s.after duration (reasons.map (fun r => .ruleSkipped r.name) ++
            error?.toList.map .failed ++ [.evaluated (e.evaluate cells lead config rules).band]))) ∧
      (∀ kind, error? = some kind ↔
        ∃ c f, Scorecard.ofValue? config = some c ∧ e.Stops cells lead c rules f ∧ f.kind = kind) ∧
      (error? = none →
        reasons = (e.evaluate cells lead config rules).outcomes.filterMap Outcome.skipReason?) ∧
      (Scorecard.ofValue? config = none → reasons = [] ∧ error? = none) := by
  obtain ⟨reasons, error?, hcounts, hrest⟩ := exists_counts_eq e cells lead config rules
  refine ⟨reasons, error?, fun s => ?_, hrest⟩
  rw [← hcounts]
  exact comes_evaluating e cells lead config rules duration s

end Engine

end Qualify
