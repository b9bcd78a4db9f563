import Qualify.Proofs.Command

/-!
# Loads that overlap

A load reads and validates the file first and publishes what it read afterwards.  Callers that load
one source side by side may have steps of each other, and edits of the file, come between the two.
Here a run is any sequence of such steps, taken by any number of callers that load once each; a load
by itself is `Source.load` (`Run.alone_iff`).

What is served after a run is what its last caller to publish had read (`Run.served`).  That need not
be what was read last (`exists_run_serving_older`): the two agree exactly when the last to publish had
read the same rulebook (`Run.served_eq_read_last_iff`), as it has if no caller reads while another one
has yet to publish (`SerialRun.served_eq_read_last`).
-/

namespace Qualify.Overlap

/-- How far a caller's load has come. -/
inductive Call where
  | idle
  /-- The rulebook was read, and is yet to be published. -/
  | holding (b : Rulebook)
  | finished (b : Rulebook)
  | failed (f : LoadFault)

/-- A file, the source that serves it, and the callers that load it. -/
structure World (Caller : Type) where
  file : FileState
  source : Source
  calls : Caller → Call

inductive Move (Caller : Type) where
  | edit (state : FileState)
  | read (c : Caller)
  | publish (c : Caller)

namespace Move

variable {Caller : Type}

def reader? : Move Caller → Option Caller
  | read c => some c
  | edit _ | publish _ => none

def publisher? : Move Caller → Option Caller
  | publish c => some c
  | edit _ | read _ => none

end Move

section Last

variable {Caller : Type}

/-- The caller that was the last to read. -/
def lastReader (ms : List (Move Caller)) : Option Caller := (ms.filterMap Move.reader?).getLast?

/-- The caller that was the last to publish. -/
def lastPublisher (ms : List (Move Caller)) : Option Caller :=
  (ms.filterMap Move.publisher?).getLast?

theorem lastReader_concat (ms : List (Move Caller)) (m : Move Caller) :
    lastReader (ms ++ [m]) = m.reader?.or (lastReader ms) := by
  unfold lastReader
  rw [List.filterMap_append]
  cases h : m.reader? with
  | none => simp [h]
  | some c => simp [h]

theorem lastPublisher_concat (ms : List (Move Caller)) (m : Move Caller) :
    lastPublisher (ms ++ [m]) = m.publisher?.or (lastPublisher ms) := by
  unfold lastPublisher
  rw [List.filterMap_append]
  cases h : m.publisher? with
  | none => simp [h]
  | some c => simp [h]

end Last

section Runs

variable {Caller : Type} [DecidableEq Caller]

/-- The world with a caller's load a step further. -/
def World.setCall (w : World Caller) (c : Caller) (call : Call) : World Caller :=
  { w with calls := fun d => if d = c then call else w.calls d }

/-- One step of a run.  Reading sees the file as it is then; publishing does not look at it again. -/
inductive Step : World Caller → Move Caller → World Caller → Prop
  | edit (w : World Caller) (state : FileState) : Step w (.edit state) { w with file := state }
  | read {w : World Caller} {c : Caller} {b : Rulebook} (hidle : w.calls c = .idle)
      (h : Rulebook.ofFile w.file = .ok b) : Step w (.read c) (w.setCall c (.holding b))
  | fail {w : World Caller} {c : Caller} {f : LoadFault} (hidle : w.calls c = .idle)
      (h : Rulebook.ofFile w.file = .error f) : Step w (.read c) (w.setCall c (.failed f))
  | publish {w : World Caller} {c : Caller} {b : Rulebook} (h : w.calls c = .holding b) :
      Step w (.publish c) { w.setCall c (.finished b) with source := w.source.publish b }

/-- Steps one after the other. -/
inductive Run (w : World Caller) : List (Move Caller) → World Caller → Prop
  | nil : Run w [] w
  | concat {ms : List (Move Caller)} {m : Move Caller} {w' w'' : World Caller} (h : Run w ms w')
      (hstep : Step w' m w'') : Run w (ms ++ [m]) w''

/-- This is what the caller has that was the last to read. -/
def ReadLast (ms : List (Move Caller)) (w : World Caller) (b : Rulebook) : Prop :=
  ∃ c, lastReader ms = some c ∧ w.calls c = .finished b

/-- This is what the caller has that was the last to publish. -/
def PublishedLast (ms : List (Move Caller)) (w : World Caller) (b : Rulebook) : Prop :=
  ∃ c, lastPublisher ms = some c ∧ w.calls c = .finished b

variable {w w' w'' : World Caller} {m : Move Caller} {ms : List (Move Caller)} {c : Caller}
  {b : Rulebook}

@[simp] theorem World.calls_setCall_self (w : World Caller) (c : Caller) (call : Call) :
    (w.setCall c call).calls c = call :=
  if_pos rfl

theorem World.calls_setCall_of_ne {c d : Caller} (h : d ≠ c) (w : World Caller) (call : Call) :
    (w.setCall c call).calls d = w.calls d :=
  if_neg h

/-- A load that is elsewhere than one was brought to is another caller's, and was there before. -/
theorem World.calls_eq_of_ne {call call' : Call} {d : Caller} (hne : call ≠ call')
    (h : (w.setCall c call).calls d = call') : d ≠ c ∧ w.calls d = call' := by
  have hd : d ≠ c := by
    rintro rfl
    exact hne ((w.calls_setCall_self d call).symm.trans h)
  exact ⟨hd, (w.calls_setCall_of_ne hd call).symm.trans h⟩

/-! ## One step -/

/-- Only publishing changes what is served. -/
theorem Step.served (h : Step w m w') :
    (m.publisher? = none ∧ w'.source = w.source) ∨
      ∃ c b, m.publisher? = some c ∧ w'.calls c = .finished b ∧ w'.source.served = some b := by
  cases h with
  | edit state => exact .inl ⟨rfl, rfl⟩
  | read hidle h => exact .inl ⟨rfl, rfl⟩
  | fail hidle h => exact .inl ⟨rfl, rfl⟩
  | @publish c b h => exact .inr ⟨c, b, rfl, w.calls_setCall_self c _, rfl⟩

/-- A load that has finished stays as it is. -/
theorem Step.finished (h : Step w m w') (hc : w.calls c = .finished b) :
    w'.calls c = .finished b := by
  have hother : ∀ d call, w.calls d ≠ .finished b → (w.setCall d call).calls c = .finished b := by
    intro d call hd
    have hne : c ≠ d := by
      rintro rfl
      exact hd hc
    rw [w.calls_setCall_of_ne hne, hc]
  cases h with
  | edit state => exact hc
  | read hidle h => exact hother _ _ (by rw [hidle]; exact nofun)
  | fail hidle h => exact hother _ _ (by rw [hidle]; exact nofun)
  | publish h => exact hother _ _ (by rw [h]; exact nofun)

/-- A load finishes by publishing. -/
theorem Step.finished_cases (h : Step w m w') (hc : w'.calls c = .finished b) :
    w.calls c = .finished b ∨ m.publisher? = some c := by
  cases h with
  | edit state => exact .inl hc
  | @read d b' hidle h =>
      have hne : Call.holding b' ≠ .finished b := nofun
      exact .inl (World.calls_eq_of_ne hne hc).2
  | @fail d f hidle h =>
      have hne : Call.failed f ≠ .finished b := nofun
      exact .inl (World.calls_eq_of_ne hne hc).2
  | @publish d b' h =>
      by_cases hd : c = d
      · subst hd
        exact .inr rfl
      · have hcalls := w.calls_setCall_of_ne hd (.finished b')
        exact .inl (hcalls.symm.trans hc)

/-! ## Runs -/

theorem Run.of_concat (ms : List (Move Caller)) (h : Run w (ms ++ [m]) w'') :
    ∃ w', Run w ms w' ∧ Step w' m w'' := by
  generalize hl : ms ++ [m] = l at h
  cases h with
  | nil => simp at hl
  | concat h hstep =>
      obtain ⟨rfl, hm⟩ := List.append_inj' hl rfl
      obtain rfl : m = _ := List.singleton_inj.mp hm
      exact ⟨_, h, hstep⟩

theorem Run.eq_of_nil (h : Run w [] w') : w' = w := by
  generalize hl : [] = l at h
  cases h with
  | nil => rfl
  | concat h hstep => simp at hl

/-- A caller that reads and publishes with nothing in between loads the source. -/
theorem Run.alone_iff (hidle : w.calls c = .idle) {t : Source} :
    w.source.load w.file = .ok (t, b) ↔
      ∃ w', Run w [.read c, .publish c] w' ∧ w'.source = t ∧ w'.calls c = .finished b := by
  rw [Source.load_eq_ok_iff]
  constructor
  · rintro ⟨hb, rfl⟩
    have hread : Run w [.read c] (w.setCall c (.holding b)) := .concat .nil (.read hidle hb)
    exact ⟨_, hread.concat (.publish (w.calls_setCall_self c _)), rfl,
      World.calls_setCall_self _ c _⟩
  · rintro ⟨w'', hrun, hsource, hc⟩
    obtain ⟨w', hrun, hpublish⟩ := Run.of_concat [.read c] hrun
    obtain ⟨w₀, hnil, hread⟩ := Run.of_concat [] hrun
    obtain rfl := hnil.eq_of_nil
    cases hread with
    | @read _ b' _ hb' =>
        cases hpublish with
        | @publish _ b'' hholding =>
            rw [World.calls_setCall_self] at hholding hc
            cases hholding
            cases hc
            exact ⟨hb', hsource.symm⟩
    | @fail _ f _ hf =>
        cases hpublish with
        | publish hholding =>
            rw [World.calls_setCall_self] at hholding
            cases hholding

/-- What is served after a run is what was published last, if anything was. -/
theorem Run.served (h : Run w ms w') :
    (lastPublisher ms = none ∧ w'.source.served = w.source.served) ∨
      ∃ b, PublishedLast ms w' b ∧ w'.source.served = some b := by
  induction h with
  | nil => exact .inl ⟨rfl, rfl⟩
  | @concat ms m w' w'' h hstep ih =>
      unfold PublishedLast
      rw [lastPublisher_concat]
      obtain ⟨hm, hsource⟩ | ⟨c, b, hm, hc, hserved⟩ := hstep.served
      · rw [hm, hsource, Option.none_or]
        refine ih.imp_right ?_
        rintro ⟨b, ⟨c, hlast, hc⟩, hserved⟩
        exact ⟨b, ⟨c, hlast, hstep.finished hc⟩, hserved⟩
      · rw [hm, Option.some_or]
        exact .inr ⟨b, ⟨c, rfl, hc⟩, hserved⟩

/-- Where a load has finished, something was published. -/
theorem Run.lastPublisher_ne_none (hidle : ∀ c, w.calls c = .idle) (h : Run w ms w')
    (hc : w'.calls c = .finished b) : lastPublisher ms ≠ none := by
  induction h with
  | nil =>
      rw [hidle] at hc
      cases hc
  | @concat ms m w' w'' h hstep ih =>
      rw [lastPublisher_concat]
      obtain hbefore | hm := hstep.finished_cases hc
      · intro hnone
        exact ih hbefore (Option.or_eq_none_iff.mp hnone).2
      · rw [hm]
        exact Option.some_ne_none c

/-- What was published last is served. -/
theorem Run.served_of_publishedLast (h : Run w ms w') (hlast : PublishedLast ms w' b) :
    w'.source.served = some b := by
  obtain ⟨c, hc, hb⟩ := hlast
  obtain ⟨hnone, -⟩ | ⟨b', ⟨c', hc', hb'⟩, hserved⟩ := h.served
  · exact nomatch hnone.symm.trans hc
  · obtain rfl : c' = c := Option.some.inj (hc'.symm.trans hc)
    obtain rfl : b' = b := Call.finished.inj (hb'.symm.trans hb)
    exact hserved

/-- What was read last is served exactly when it is what was published last. -/
theorem Run.served_eq_read_last_iff (hidle : ∀ c, w.calls c = .idle) (h : Run w ms w')
    (hread : ReadLast ms w' b) : w'.source.served = some b ↔ PublishedLast ms w' b := by
  obtain ⟨r, -, hr⟩ := hread
  constructor
  · intro hb
    obtain ⟨hnone, -⟩ | ⟨b', hlast, hserved⟩ := h.served
    · exact absurd hnone (h.lastPublisher_ne_none hidle hr)
    · obtain rfl : b' = b := Option.some.inj (hserved.symm.trans hb)
      exact hlast
  · intro hlast
    exact h.served_of_publishedLast hlast

/-- Both callers read the same file before either publishes: the first of them is the last to publish
what the second one was the last to read. -/
theorem served_eq_read_last_unchanged :
    ∃ b w', Run ⟨OneRule.file, { path := .ofText "r" }, fun _ => .idle⟩
        [.read true, .read false, .publish false, .publish true] w' ∧
      ReadLast [.read true, .read false, .publish false, .publish true] w' b ∧
      w'.calls true = .finished b ∧ w'.source.served = some b := by
  obtain ⟨b, hb, -⟩ := OneRule.exists_ofFile_file
  let w : World Bool := ⟨OneRule.file, { path := .ofText "r" }, fun _ => .idle⟩
  have h₁ : Run w [.read true] (w.setCall true (.holding b)) := .concat .nil (.read rfl hb)
  have h₂ := h₁.concat (.read (c := false) rfl hb)
  have h₃ := h₂.concat (.publish (c := false) (b := b) rfl)
  have h₄ := h₃.concat (.publish (c := true) (b := b) rfl)
  refine ⟨b, _, h₄, ⟨false, rfl, rfl⟩, rfl, ?_⟩
  exact (Run.served_eq_read_last_iff (fun _ => rfl) h₄ ⟨false, rfl, rfl⟩).mpr ⟨true, rfl, rfl⟩

/-! ## Where a rulebook comes from -/

/-- A caller that holds a rulebook, or has finished with it, has it. -/
def Call.Has (call : Call) (b : Rulebook) : Prop := call = .holding b ∨ call = .finished b

theorem Step.has_cases (h : Step w m w') (hc : (w'.calls c).Has b) :
    (w.calls c).Has b ∨ m = .read c ∧ Rulebook.ofFile w.file = .ok b := by
  cases h with
  | edit state => exact .inl hc
  | @read d b' hidle h =>
      by_cases hd : c = d
      · subst hd
        rw [w.calls_setCall_self] at hc
        obtain hc | hc := hc
        · cases hc
          exact .inr ⟨rfl, h⟩
        · cases hc
      · rw [w.calls_setCall_of_ne hd] at hc
        exact .inl hc
  | @fail d f hidle h =>
      by_cases hd : c = d
      · subst hd
        rw [w.calls_setCall_self] at hc
        obtain hc | hc := hc
        · cases hc
        · cases hc
      · rw [w.calls_setCall_of_ne hd] at hc
        exact .inl hc
  | @publish d b' h =>
      by_cases hd : c = d
      · subst hd
        obtain hc | hc := hc
        · cases (w.calls_setCall_self c _).symm.trans hc
        · cases (w.calls_setCall_self c _).symm.trans hc
          exact .inl (.inl h)
      · have hcalls := w.calls_setCall_of_ne hd (.finished b')
        exact .inl (hc.imp hcalls.symm.trans hcalls.symm.trans)

/-- What a caller has is what was in the file when it read that. -/
theorem Run.exists_read (hidle : ∀ c, w.calls c = .idle) (h : Run w ms w')
    (hc : (w'.calls c).Has b) :
    ∃ before rest w₁, ms = before ++ .read c :: rest ∧ Run w before w₁ ∧
      Rulebook.ofFile w₁.file = .ok b := by
  induction h with
  | nil =>
      rw [hidle] at hc
      obtain hc | hc := hc
      · cases hc
      · cases hc
  | @concat ms m w' w'' h hstep ih =>
      obtain hbefore | ⟨rfl, hfile⟩ := hstep.has_cases hc
      · obtain ⟨before, rest, w₁, rfl, hrun, hfile⟩ := ih hbefore
        exact ⟨before, rest ++ [m], w₁, by simp, hrun, hfile⟩
      · exact ⟨ms, [], w', rfl, h, hfile⟩

/-! ## One load at a time -/

/-- A run in which no caller reads while another has yet to publish, as if both steps were taken
under one lock. -/
inductive SerialRun (w : World Caller) : List (Move Caller) → World Caller → Prop
  | nil : SerialRun w [] w
  | concat {ms : List (Move Caller)} {m : Move Caller} {w' w'' : World Caller}
      (h : SerialRun w ms w') (hstep : Step w' m w'')
      (hfree : ∀ c, m = .read c → ∀ d b, w'.calls d ≠ .holding b) : SerialRun w (ms ++ [m]) w''

theorem SerialRun.run (h : SerialRun w ms w') : Run w ms w' := by
  induction h with
  | nil => exact .nil
  | concat _ hstep _ ih => exact ih.concat hstep

/-- The last to read is the only one that may have yet to publish, and is the last to publish
then. -/
structure IsOrderly (ms : List (Move Caller)) (w : World Caller) : Prop where
  holding : ∀ c b, w.calls c = .holding b → lastReader ms = some c
  finished : ∀ c b, lastReader ms = some c → w.calls c = .finished b → lastPublisher ms = some c

theorem IsOrderly.concat (h : IsOrderly ms w) (hstep : Step w m w')
    (hfree : ∀ c, m = .read c → ∀ d b, w.calls d ≠ .holding b) : IsOrderly (ms ++ [m]) w' := by
  cases hstep with
  | edit state =>
      constructor
      · intro c b hc
        rw [lastReader_concat]
        exact h.holding c b hc
      · intro c b hlast hc
        rw [lastReader_concat] at hlast
        rw [lastPublisher_concat]
        exact h.finished c b hlast hc
  | @read d b' hidle hb' =>
      constructor
      · intro c b hc
        by_cases hd : c = d
        · rw [lastReader_concat, hd]
          rfl
        · rw [w.calls_setCall_of_ne hd] at hc
          exact absurd hc (hfree d rfl c b)
      · intro c b hlast hc
        rw [lastReader_concat] at hlast
        obtain rfl : d = c := Option.some.inj hlast
        rw [w.calls_setCall_self] at hc
        cases hc
  | @fail d f hidle hf =>
      constructor
      · intro c b hc
        have hne : Call.failed f ≠ .holding b := nofun
        obtain ⟨-, hc⟩ := World.calls_eq_of_ne hne hc
        exact absurd hc (hfree d rfl c b)
      · intro c b hlast hc
        rw [lastReader_concat] at hlast
        obtain rfl : d = c := Option.some.inj hlast
        rw [w.calls_setCall_self] at hc
        cases hc
  | @publish d b' hholding =>
      have hlast : lastReader (ms ++ [.publish d]) = some d := by
        rw [lastReader_concat]
        exact h.holding d b' hholding
      constructor
      · intro c b hc
        have hne : Call.finished b' ≠ .holding b := nofun
        obtain ⟨hd, hc⟩ := w.calls_eq_of_ne hne hc
        have hcd := (h.holding c b hc).symm.trans (h.holding d b' hholding)
        exact absurd (Option.some.inj hcd) hd
      · intro c b hc _
        rw [lastPublisher_concat]
        exact hlast.symm.trans hc

theorem SerialRun.isOrderly (hidle : ∀ c, w.calls c = .idle) (h : SerialRun w ms w') :
    IsOrderly ms w' := by
  induction h with
  | nil =>
      constructor
      · intro c b hc
        rw [hidle] at hc
        cases hc
      · intro c b hc
        cases hc
  | concat _ hstep hfree ih => exact ih.concat hstep hfree

/-- One load at a time, what was read last was published last, and so it is served. -/
theorem SerialRun.served_eq_read_last (hidle : ∀ c, w.calls c = .idle) (h : SerialRun w ms w')
    (hread : ReadLast ms w' b) : w'.source.served = some b := by
  obtain ⟨c, hlast, hc⟩ := hread
  exact h.run.served_of_publishedLast ⟨c, (h.isOrderly hidle).finished c b hlast hc, hc⟩

end Runs

/-! ## Two loads at a time -/

/-- The first caller reads, the file is edited, and the second one reads and publishes before the
first. -/
def overtaking (state : FileState) : List (Move Bool) :=
  [.read true, .edit state, .read false, .publish false, .publish true]

/-- Whatever two rulebooks a file holds in turn, two loads can leave the older one served, although
the newer one was read last and was published. -/
theorem exists_run_serving_older {older newer : FileState} {b b' : Rulebook}
    (hb : Rulebook.ofFile older = .ok b) (hb' : Rulebook.ofFile newer = .ok b') (s : Source) :
    ∃ w', Run ⟨older, s, fun _ => .idle⟩ (overtaking newer) w' ∧ w'.calls true = .finished b ∧
      ReadLast (overtaking newer) w' b' ∧ w'.source.served = some b := by
  let w : World Bool := ⟨older, s, fun _ => .idle⟩
  have h₁ : Run w [.read true] (w.setCall true (.holding b)) := .concat .nil (.read rfl hb)
  have h₂ := h₁.concat (.edit _ newer)
  have h₃ := h₂.concat (.read (c := false) rfl hb')
  have h₄ := h₃.concat (.publish (c := false) (b := b') rfl)
  have h₅ := h₄.concat (.publish (c := true) (b := b) rfl)
  exact ⟨_, h₅, rfl, ⟨false, rfl, rfl⟩, rfl⟩

/-! ### Two rulebooks in turn -/

namespace NoRule

def lines : List String := ["version: '1.0'", "teams:", " t:", "  config:", "   id: t"]

def text : String := String.ofList (lines.flatMap fun line => line.toList ++ ['\n'])

/-- The file before its team was given a rule. -/
def file : FileState := .file text.toByteArray.data.toList

open OneRule (block entry)

def tokens : List Yaml.Token :=
  block [entry "version" [.scalar "1.0" false],
    entry "teams" (block [entry "t" (block [
      entry "config" (block [entry "id" [.scalar "t" true]])])])]

theorem tokens_text : Yaml.tokens text.toList = (tokens, none) := by
  rw [text, String.toList_ofList]
  cbv

theorem read_text :
    Yaml.read text = (Yaml.Compose.document.run' { tokens, fault := none } >>= fun
      | none => .ok .null
      | some n => (Yaml.build n).outcome) :=
  Yaml.read_of_tokens (by decide +kernel) tokens_text

theorem text_file : Utf8.text text.toByteArray.data.toList = .ok text := by
  decide +kernel

theorem exists_ofFile_file :
    ∃ b, Rulebook.ofFile file = .ok b ∧
      b.teams.map (fun t => (t.1, t.2.rules.length)) = [("t", 0)] := by
  have hany : (Rulebook.ofFile file).toOption.any fun b =>
      b.teams.map (fun t => (t.1, t.2.rules.length)) = [("t", 0)] := by
    simp only [Rulebook.ofFile, Rulebook.dataOf, file, text_file, read_text]
    decide +kernel
  obtain ⟨b, hb, hcounts⟩ := Except.exists_of_any hany
  exact ⟨b, hb, of_decide_eq_true hcounts⟩

end NoRule

/-- A rule is added between two loads that overlap, and the rulebook without it is served in the end:
the load that read the file later was the first to publish. -/
theorem served_ne_read_last :
    ∃ (w w' : World Bool) (ms : List (Move Bool)) (b b' : Rulebook),
      (∀ c, w.calls c = .idle) ∧ Run w ms w' ∧ w'.calls true = .finished b ∧
        w'.calls false = .finished b' ∧ ReadLast ms w' b' ∧ w'.source.served ≠ some b' := by
  obtain ⟨b, hb, hteams⟩ := NoRule.exists_ofFile_file
  obtain ⟨b', hb', hteams', -⟩ := OneRule.exists_ofFile_file
  obtain ⟨w', hrun, holder, hread, hserved⟩ :=
    exists_run_serving_older hb hb' { path := .ofText "r" }
  have hne : b ≠ b' := by
    rintro rfl
    rw [hteams] at hteams'
    exact absurd hteams' (by decide)
  have hnewer : w'.calls false = .finished b' := by
    obtain ⟨c, hc, hfinished⟩ := hread
    obtain rfl : false = c := Option.some.inj hc
    exact hfinished
  refine ⟨_, w', _, b, b', fun _ => rfl, hrun, holder, hnewer, hread, ?_⟩
  rw [hserved]
  intro h
  exact hne (Option.some.inj h)

end Qualify.Overlap
