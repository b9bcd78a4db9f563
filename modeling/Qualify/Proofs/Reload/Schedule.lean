import Mathlib.Data.List.Basic
import Mathlib.Data.List.Induction
import Qualify.Reload

/-!
# Which reload is pending

A handler learns of changes, its reload is cancelled, and the times of its timers come, in any
order; a reload that has begun may go on meanwhile, with its timer still the current one.  Here a run
is any sequence of such occurrences (`ReloadHandler.Run`).

One invariant carries everything: a timer that waits is the current one (`ReloadSchedule.IsTidy`).
With it every occurrence says by itself which timers wait behind it (`Step.waits_iff`), and a run
says it by the last of its occurrences that matter.  `ReloadHandler.Run.pending_reload` puts
together what follows: no two timers wait, one waits exactly if the file has changed since the last
cancellation or firing, and no change goes without a later reload unless that is cancelled.
-/

namespace Qualify

/-! ## Since -/

section Since

variable {α : Type} {p q : α → Prop} {a : α} {l : List α}

/-- Something in a row has the first property, and nothing behind it has the second. -/
def Since (p q : α → Prop) (l : List α) : Prop :=
  ∃ before a after, l = before ++ a :: after ∧ p a ∧ ∀ b ∈ after, ¬ q b

theorem not_since_nil : ¬ Since p q [] := by
  rintro ⟨before, a, after, hl, -⟩
  simp at hl

theorem since_concat : Since p q (l ++ [a]) ↔ p a ∨ ¬ q a ∧ Since p q l := by
  constructor
  · rintro ⟨before, b, after, hl, hb, hafter⟩
    rcases List.eq_nil_or_concat' after with rfl | ⟨after, c, rfl⟩
    · obtain ⟨-, ha⟩ := List.append_inj' hl rfl
      obtain rfl := List.singleton_inj.mp ha
      exact .inl hb
    · rw [← List.cons_append, ← List.append_assoc] at hl
      obtain ⟨rfl, ha⟩ := List.append_inj' hl rfl
      obtain rfl := List.singleton_inj.mp ha
      refine .inr ⟨hafter a (by simp), before, b, after, rfl, hb, fun c hc => hafter c ?_⟩
      exact List.mem_append_left _ hc
  · rintro (ha | ⟨ha, before, b, after, rfl, hb, hafter⟩)
    · exact ⟨l, a, [], rfl, ha, nofun⟩
    · refine ⟨before, b, after ++ [a], by simp, hb, fun c hc => ?_⟩
      rcases List.mem_append.mp hc with hc | hc
      · exact hafter c hc
      · exact List.mem_singleton.mp hc ▸ ha

end Since

/-! ## Changes of a file -/

/-- A change of a file with this name: something was written to it, or moved to its place. -/
inductive FileChange.IsOf (name : String) : FileChange → Prop
  | modified {path : Location} (h : path.name = name) : IsOf name (.modified path false)
  | moved {source target : Location} (h : target.name = name) :
      IsOf name (.moved source target false)

theorem FileChange.concerns_iff {c : FileChange} {name : String} :
    c.concerns name = true ↔ c.IsOf name := by
  constructor
  · intro h
    cases c with
    | modified path isDirectory =>
        simp only [concerns, Bool.and_eq_true, Bool.not_eq_true', beq_iff_eq] at h
        obtain ⟨rfl, hname⟩ := h
        exact .modified hname
    | moved source target isDirectory =>
        simp only [concerns, Bool.and_eq_true, Bool.not_eq_true', beq_iff_eq] at h
        obtain ⟨rfl, hname⟩ := h
        exact .moved hname
    | other path isDirectory => cases h
  · rintro (⟨rfl⟩ | ⟨rfl⟩)
    · simp [concerns]
    · simp [concerns]

theorem TimerState.cancel_ne_pending (t : TimerState) : t.cancel ≠ .pending := by
  cases t with
  | pending => exact nofun
  | cancelled => exact nofun
  | running => exact nofun
  | ended => exact nofun

/-! ## Timers that wait -/

namespace ReloadSchedule

variable {s : ReloadSchedule} {m n : Nat}

/-- The time of the timer is yet to come. -/
def Waits (s : ReloadSchedule) (n : Nat) : Prop := s.timers[n]? = some .pending

/-- A timer that waits is the current one. -/
def IsTidy (s : ReloadSchedule) : Prop := ∀ n, s.Waits n → s.current = some n

theorem Waits.lt_length (h : s.Waits n) : n < s.timers.length :=
  (List.getElem?_eq_some_iff.mp h).1

theorem IsTidy.eq (h : s.IsTidy) (hm : s.Waits m) (hn : s.Waits n) : m = n :=
  Option.some.inj ((h m hm).symm.trans (h n hn))

theorem IsTidy.isPending_iff (h : s.IsTidy) : s.isPending = true ↔ ∃ n, s.Waits n := by
  simp only [isPending, Option.any_eq_true, beq_iff_eq]
  constructor
  · rintro ⟨n, -, hn⟩
    exact ⟨n, hn⟩
  · rintro ⟨n, hn⟩
    exact ⟨n, h n hn, hn⟩

theorem isTidy_empty : ({} : ReloadSchedule).IsTidy := fun _ hn => nomatch hn

/-- Cancelling a timer leaves the others waiting. -/
theorem getElem?_cancelTimer {ts : List TimerState} {current : Option Nat} :
    (cancelTimer ts current)[m]? = some .pending ↔
      ts[m]? = some .pending ∧ current ≠ some m := by
  cases current with
  | none => simp [cancelTimer]
  | some n =>
      rw [cancelTimer, List.getElem?_modify]
      by_cases hmn : n = m
      · subst hmn
        simp [TimerState.cancel_ne_pending]
      · simp [hmn]

@[simp] theorem length_cancelTimer {ts : List TimerState} {current : Option Nat} :
    (cancelTimer ts current).length = ts.length := by
  cases current with
  | none => rfl
  | some n => exact List.length_modify ..

@[simp] theorem current_schedule : s.schedule.current = some s.timers.length := by
  simp [schedule]

/-- Behind a change the new timer waits and no other. -/
theorem IsTidy.waits_schedule (h : s.IsTidy) : s.schedule.Waits m ↔ m = s.timers.length := by
  unfold Waits schedule
  dsimp only
  rw [List.getElem?_append, length_cancelTimer]
  split
  case isTrue hm =>
    rw [getElem?_cancelTimer]
    refine ⟨?_, fun heq => absurd heq (Nat.ne_of_lt hm)⟩
    rintro ⟨hwaits, hcurrent⟩
    -- it waited before, so it was current, and alive
    refine absurd ?_ hcurrent
    rw [h m hwaits, Option.filter_some, hwaits]
    rfl
  case isFalse hm =>
    rw [List.getElem?_singleton]
    split
    case isTrue hzero => exact ⟨fun _ => by omega, fun _ => rfl⟩
    case isFalse hzero => exact ⟨nofun, fun heq => by omega⟩

theorem IsTidy.not_waits_cancel (h : s.IsTidy) : ¬ s.cancel.Waits m := by
  intro hwaits
  obtain ⟨hbefore, hcurrent⟩ := getElem?_cancelTimer.mp hwaits
  exact hcurrent (h m hbefore)

theorem IsTidy.not_waits_fire (h : s.IsTidy) (hn : s.Waits n) : ¬ (s.fire n).Waits m := by
  have hfire : s.fire n = { s with timers := s.timers.set n .running } := if_pos hn
  rw [hfire, Waits, List.getElem?_set]
  split
  case isTrue heq => split <;> exact nofun
  case isFalse hne => exact fun hm => hne (h.eq hn hm)

theorem waits_finish (hn : s.timers[n]? = some .running) : (s.finish n).Waits m ↔ s.Waits m := by
  have hfinish : s.finish n = { s with timers := s.timers.set n .ended } := if_pos hn
  rw [hfinish, Waits, Waits, List.getElem?_set]
  split
  case isTrue heq =>
    subst heq
    rw [hn]
    split <;> simp
  case isFalse => rfl

@[simp] theorem current_finish : (s.finish n).current = s.current := by
  unfold finish
  split <;> rfl

end ReloadSchedule

/-! ## One occurrence -/

namespace ReloadHandler

/-- What a handler may meet. -/
inductive Occurrence where
  | change (c : FileChange)
  | cancel
  /-- The time of a timer comes. -/
  | fire (n : Nat)
  /-- The reload of a timer comes to its end. -/
  | finish (n : Nat)

namespace Occurrence

/-- The file with this name changes. -/
def IsChangeOf (name : String) (o : Occurrence) : Prop := ∃ c, o = .change c ∧ c.IsOf name

/-- What is pending is cancelled, or begins. -/
inductive Clears : Occurrence → Prop
  | cancel : Clears .cancel
  | fire (n : Nat) : Clears (.fire n)

end Occurrence

/-- One occurrence.  A timer fires only while it waits, and only a reload that goes on comes to an
end. -/
inductive Step (h : ReloadHandler) : Occurrence → ReloadHandler → Prop
  | change (c : FileChange) : Step h (.change c) (h.handle c)
  | cancel : Step h .cancel h.cancel
  | fire {n : Nat} (hn : h.schedule.Waits n) :
      Step h (.fire n) { h with schedule := h.schedule.fire n }
  | finish {n : Nat} (hn : h.schedule.timers[n]? = some .running) :
      Step h (.finish n) { h with schedule := h.schedule.finish n }

variable {h h' h'' : ReloadHandler} {o : Occurrence} {os : List Occurrence} {m n : Nat}

theorem Step.name_eq (hstep : Step h o h') : h'.name = h.name := by
  cases hstep with
  | change c =>
      unfold handle
      split <;> rfl
  | _ => rfl

/-- Behind a change of the file its new timer waits, behind a cancellation or a firing none does, and
nothing else matters. -/
theorem Step.waits_iff (hstep : Step h o h') (htidy : h.schedule.IsTidy) :
    h'.schedule.Waits m ↔
      o.IsChangeOf h.name ∧ m = h.schedule.timers.length ∨
        ¬ o.IsChangeOf h.name ∧ ¬ o.Clears ∧ h.schedule.Waits m := by
  cases hstep with
  | change c =>
      have hclears : ¬ (Occurrence.change c).Clears := nofun
      have hof : (Occurrence.change c).IsChangeOf h.name ↔ c.concerns h.name = true := by
        rw [FileChange.concerns_iff]
        exact ⟨fun ⟨_, hc, hname⟩ => by cases hc; exact hname, fun hname => ⟨c, rfl, hname⟩⟩
      rw [hof, handle]
      split
      case isTrue hc => simp [hc, htidy.waits_schedule]
      case isFalse hc => simp [hc, hclears]
  | cancel =>
      have hwaits : ¬ h.cancel.schedule.Waits m := htidy.not_waits_cancel
      simp [hwaits, Occurrence.IsChangeOf, Occurrence.Clears.cancel]
  | @fire n hn =>
      have hwaits : ¬ (h.schedule.fire n).Waits m := htidy.not_waits_fire hn
      simp [hwaits, Occurrence.IsChangeOf, Occurrence.Clears.fire n]
  | @finish n hn =>
      have hclears : ¬ (Occurrence.finish n).Clears := nofun
      simp [ReloadSchedule.waits_finish hn, Occurrence.IsChangeOf, hclears]

theorem Step.isTidy (hstep : Step h o h') (htidy : h.schedule.IsTidy) : h'.schedule.IsTidy := by
  cases hstep with
  | change c =>
      unfold handle
      split
      case isTrue =>
        intro m hm
        rw [ReloadSchedule.current_schedule, htidy.waits_schedule.mp hm]
      case isFalse => exact htidy
  | cancel => exact fun m hm => absurd hm htidy.not_waits_cancel
  | fire hn => exact fun m hm => absurd hm (htidy.not_waits_fire hn)
  | finish hn =>
      intro m hm
      rw [ReloadSchedule.current_finish]
      exact htidy m ((ReloadSchedule.waits_finish hn).mp hm)

/-! ## Runs -/

/-- Occurrences one after the other. -/
inductive Run (h : ReloadHandler) : List Occurrence → ReloadHandler → Prop
  | nil : Run h [] h
  | concat {os : List Occurrence} {o : Occurrence} {h' h'' : ReloadHandler} (hrun : Run h os h')
      (hstep : Step h' o h'') : Run h (os ++ [o]) h''

theorem Run.name_eq (hrun : Run h os h') : h'.name = h.name := by
  induction hrun with
  | nil => rfl
  | concat hrun hstep ih => exact hstep.name_eq.trans ih

theorem Run.isTidy (hrun : Run h os h') (htidy : h.schedule.IsTidy) : h'.schedule.IsTidy := by
  induction hrun with
  | nil => exact htidy
  | concat hrun hstep ih => exact hstep.isTidy ih

theorem Run.of_concat (hrun : Run h (os ++ [o]) h'') : ∃ h', Run h os h' ∧ Step h' o h'' := by
  generalize hl : os ++ [o] = l at hrun
  cases hrun with
  | nil => simp at hl
  | concat hrun hstep =>
      obtain ⟨rfl, ho⟩ := List.append_inj' hl rfl
      obtain rfl := List.singleton_inj.mp ho
      exact ⟨_, hrun, hstep⟩

/-- A run goes through the handler between any two parts of it. -/
theorem Run.of_append {before after : List Occurrence} (hrun : Run h (before ++ after) h'') :
    ∃ h', Run h before h' ∧ Run h' after h'' := by
  induction after using List.reverseRecOn generalizing h'' with
  | nil =>
      rw [List.append_nil] at hrun
      exact ⟨h'', hrun, .nil⟩
  | append_singleton after o ih =>
      rw [← List.append_assoc] at hrun
      obtain ⟨g, hg, hstep⟩ := hrun.of_concat
      obtain ⟨h', hbefore, hafter⟩ := ih hg
      exact ⟨h', hbefore, hafter.concat hstep⟩

/-- A run that starts with an occurrence takes its step first. -/
theorem Run.of_cons {after : List Occurrence} (hrun : Run h (o :: after) h'') :
    ∃ h', Step h o h' ∧ Run h' after h'' := by
  obtain ⟨h', hfirst, hafter⟩ : ∃ h', Run h [o] h' ∧ Run h' after h'' := hrun.of_append
  obtain ⟨g, hg, hstep⟩ : ∃ g, Run h [] g ∧ Step g o h' := hfirst.of_concat
  generalize hl : [] = l at hg
  cases hg with
  | nil => exact ⟨h', hstep, hafter⟩
  | concat => simp at hl

/-- The file has changed since the last cancellation or firing. -/
def HasChangedSince (name : String) : List Occurrence → Prop :=
  Since (Occurrence.IsChangeOf name) Occurrence.Clears

theorem hasChangedSince_concat {name : String} :
    HasChangedSince name (os ++ [o]) ↔
      o.IsChangeOf name ∨ ¬ o.Clears ∧ HasChangedSince name os :=
  since_concat

/-- A timer waits exactly if the file has changed since the last cancellation or firing. -/
theorem Run.exists_waits_iff (hrun : Run h os h') (hnew : h.schedule = {}) :
    (∃ n, h'.schedule.Waits n) ↔ HasChangedSince h.name os := by
  have htidy : h.schedule.IsTidy := hnew ▸ ReloadSchedule.isTidy_empty
  induction hrun with
  | nil =>
      rw [hnew]
      refine iff_of_false ?_ not_since_nil
      rintro ⟨n, hn⟩
      cases hn
  | @concat os o h' h'' hrun hstep ih =>
      simp only [hasChangedSince_concat, ← ih, hstep.waits_iff (hrun.isTidy htidy), hrun.name_eq]
      by_cases ho : o.IsChangeOf h.name
      · simp [ho]
      · simp [ho]

/-- Once a timer waits, it or a later one goes on waiting until one of them fires, unless what is
pending is cancelled. -/
theorem Run.waits_or_fired (hrun : Run h os h') (htidy : h.schedule.IsTidy)
    (hn : h.schedule.Waits n) :
    .cancel ∈ os ∨ (∃ m, n ≤ m ∧ .fire m ∈ os) ∨ ∃ m, n ≤ m ∧ h'.schedule.Waits m := by
  induction hrun with
  | nil => exact .inr (.inr ⟨n, Nat.le_refl n, hn⟩)
  | @concat os o h' h'' hrun hstep ih =>
      rcases ih with hcancel | ⟨m, hm, hfire⟩ | ⟨m, hm, hwaits⟩
      · exact .inl (List.mem_append_left _ hcancel)
      · exact .inr (.inl ⟨m, hm, List.mem_append_left _ hfire⟩)
      · have htidy' := hrun.isTidy htidy
        by_cases hchange : o.IsChangeOf h'.name
        · have hlast := (hstep.waits_iff htidy').mpr (.inl ⟨hchange, rfl⟩)
          exact .inr (.inr ⟨_, Nat.le_trans hm (Nat.le_of_lt hwaits.lt_length), hlast⟩)
        by_cases hclears : o.Clears
        · cases hclears with
          | cancel => exact .inl (List.mem_append_right _ (List.mem_singleton_self _))
          | fire k =>
              -- only the timer that waits can fire
              cases hstep with
              | fire hk =>
                  obtain rfl := htidy'.eq hwaits hk
                  exact .inr (.inl ⟨m, hm, List.mem_append_right _ (List.mem_singleton_self _)⟩)
        · exact .inr (.inr ⟨m, hm, (hstep.waits_iff htidy').mpr (.inr ⟨hchange, hclears, hwaits⟩)⟩)

/-- Whatever a handler meets, no two of all its timers wait at once.  One waits exactly if the file
has changed since the last cancellation or firing.  Every change of the file leaves waiting a timer
that there was not before, and later that timer or a newer one fires or still waits, unless what is
pending is cancelled. -/
theorem Run.pending_reload (hrun : Run h os h') (hnew : h.schedule = {}) :
    (∀ m n, h'.schedule.Waits m → h'.schedule.Waits n → m = n) ∧
    (h'.schedule.isPending = true ↔ ∃ n, h'.schedule.Waits n) ∧
    ((∃ n, h'.schedule.Waits n) ↔ HasChangedSince h.name os) ∧
    ∀ before o after, os = before ++ o :: after → o.IsChangeOf h.name →
      ∃ h₁ h₂ n, Run h before h₁ ∧ Step h₁ o h₂ ∧ Run h₂ after h' ∧
        h₁.schedule.timers.length = n ∧ h₂.schedule.Waits n ∧
        (.cancel ∈ after ∨ (∃ m, n ≤ m ∧ .fire m ∈ after) ∨ ∃ m, n ≤ m ∧ h'.schedule.Waits m) := by
  have htidy : h.schedule.IsTidy := hnew ▸ ReloadSchedule.isTidy_empty
  have htidy' := hrun.isTidy htidy
  refine ⟨fun m n => htidy'.eq, htidy'.isPending_iff, hrun.exists_waits_iff hnew, ?_⟩
  rintro before o after rfl ho
  obtain ⟨h₁, hbefore, hrest⟩ := hrun.of_append
  obtain ⟨h₂, hstep, hafter⟩ := hrest.of_cons
  have htidy₁ := hbefore.isTidy htidy
  have hwaits : h₂.schedule.Waits h₁.schedule.timers.length :=
    (hstep.waits_iff htidy₁).mpr (.inl ⟨hbefore.name_eq.symm ▸ ho, rfl⟩)
  exact ⟨h₁, h₂, _, hbefore, hstep, hafter, rfl, hwaits,
    hafter.waits_or_fired (hstep.isTidy htidy₁) hwaits⟩

/-! A file is written, and while it is read again a new one is moved to its place. -/

namespace Replaced

def handler : ReloadHandler := { name := "rules.yaml" }

def written : FileChange := .modified (.ofText "config/rules.yaml") false

def replaced : FileChange :=
  .moved (.ofText "config/.rules.yaml.swp") (.ofText "config/rules.yaml") false

def occurrences : List Occurrence := [.change written, .fire 0, .change replaced, .finish 0]

theorem exists_run : ∃ h, Run handler occurrences h ∧ h.schedule.timers = [.ended, .pending] := by
  have hwritten : Run handler [.change written] (handler.handle written) :=
    Run.nil.concat (.change written)
  have hfired := hwritten.concat (.fire (n := 0) (by unfold ReloadSchedule.Waits; decide +kernel))
  have hreplaced := hfired.concat (.change replaced)
  have hfinished := hreplaced.concat (.finish (n := 0) (by decide +kernel))
  exact ⟨_, hfinished, by decide +kernel⟩

end Replaced

open Replaced in
/-- The second change has a reload of its own, which waits. -/
theorem Run.pending_reload_replaced :
    ∃ h, Run handler occurrences h ∧ h.schedule.isPending = true ∧
      (∀ n, h.schedule.Waits n → n = 1) ∧ HasChangedSince "rules.yaml" occurrences := by
  obtain ⟨h, hrun, htimers⟩ := exists_run
  have hwaits : h.schedule.Waits 1 := by
    rw [ReloadSchedule.Waits, htimers]
    rfl
  obtain ⟨hunique, hpending, hsince, -⟩ := hrun.pending_reload rfl
  exact ⟨h, hrun, hpending.mpr ⟨1, hwaits⟩, fun n hn => hunique n 1 hn hwaits,
    hsince.mp ⟨1, hwaits⟩⟩

end ReloadHandler

end Qualify
