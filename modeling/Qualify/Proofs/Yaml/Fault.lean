import Qualify.Yaml.Cursor

/-!
# What can go wrong where

A stage of reading fails only with faults of some kind when each of its steps does.  There is one
lemma for each way in which steps are put together, with and without a state, so that the kind of a
stage's faults is found by walking through the stage once.
-/

namespace Qualify.Yaml

variable {α β σ : Type} {P : Fault → Prop} {I : σ → Prop}

/-- Whatever goes wrong is of this kind. -/
def Fails (P : Fault → Prop) (x : Except Fault α) : Prop := ∀ f, x = .error f → P f

namespace Fails

@[grind =]
theorem ok_iff (a : α) : Fails P (.ok a) ↔ True := by simp [Fails]

@[grind =]
theorem pure_iff (a : α) : Fails P (pure a : Except Fault α) ↔ True := ok_iff a

@[grind =]
theorem error_iff (f : Fault) : Fails P (.error f : Except Fault α) ↔ P f := by simp [Fails]

@[grind =]
theorem bind_iff (x : Except Fault α) (k : α → Except Fault β) :
    Fails P (x >>= k) ↔ Fails P x ∧ ∀ a, x = .ok a → Fails P (k a) := by
  cases x <;> simp [Fails, bind, Except.bind]

@[grind =]
theorem map_iff (x : Except Fault α) (g : α → β) : Fails P (g <$> x) ↔ Fails P x := by
  cases x <;> simp [Fails, Functor.map, Except.map]

end Fails

/-- From a state of one kind: whatever goes wrong is of another kind, and if nothing does, the state
stays of its kind. -/
def Keeps (I : σ → Prop) (P : Fault → Prop) (m : StateT σ (Except Fault) α) : Prop :=
  ∀ s, I s → match m.run s with
    | .ok (_, t) => I t
    | .error f => P f

namespace Keeps

variable {m : StateT σ (Except Fault) α}

@[grind .]
theorem pure (a : α) : Keeps I P (Pure.pure a : StateT σ (Except Fault) α) := fun _ h => h

@[grind .]
theorem get : Keeps I P (MonadState.get : StateT σ (Except Fault) σ) := fun _ h => h

@[grind ←]
theorem change {g : σ → σ} (h : ∀ s, I s → I (g s)) :
    Keeps I P (modify g : StateT σ (Except Fault) PUnit) :=
  fun s hs => h s hs

@[grind ←]
theorem throw {f : Fault} (h : P f) : Keeps I P (throw f : StateT σ (Except Fault) α) :=
  fun _ _ => h

@[grind ←]
theorem lift {x : Except Fault α} (h : Fails P x) :
    Keeps I P (monadLift x : StateT σ (Except Fault) α) := by
  intro s hs
  cases x with
  | ok a => exact hs
  | error f => exact h f rfl

@[grind ←]
theorem bind {k : α → StateT σ (Except Fault) β} (hm : Keeps I P m) (hk : ∀ a, Keeps I P (k a)) :
    Keeps I P (m >>= k) := by
  intro s hs
  have h := hm s hs
  rw [StateT.run_bind]
  cases e : m.run s with
  | ok r =>
      rw [e] at h
      exact hk r.1 r.2 h
  | error f =>
      rw [e] at h
      exact h

@[grind ←]
theorem map {g : α → β} (hm : Keeps I P m) : Keeps I P (g <$> m) :=
  (map_eq_pure_bind g m) ▸ hm.bind fun _ => .pure _

@[grind ←]
theorem discard (hm : Keeps I P m) : Keeps I P (Functor.discard m) := hm.map

theorem ite {c : Prop} [Decidable c] {n : StateT σ (Except Fault) α} (hm : Keeps I P m)
    (hn : Keeps I P n) : Keeps I P (if c then m else n) := by
  split
  · exact hm
  · exact hn

/-! Where nothing is asked of states, they may be replaced at will. -/

@[grind .]
theorem set_any (s : σ) :
    Keeps (fun _ => True) P (MonadStateOf.set s : StateT σ (Except Fault) PUnit) :=
  fun _ _ => trivial

@[grind .]
theorem change_any (g : σ → σ) :
    Keeps (fun _ => True) P (modify g : StateT σ (Except Fault) PUnit) :=
  fun _ _ => trivial

theorem error {f : Fault} {s : σ} (hm : Keeps I P m) (hs : I s) (h : m.run s = .error f) : P f := by
  have hp := hm s hs
  rw [h] at hp
  exact hp

end Keeps

end Qualify.Yaml
