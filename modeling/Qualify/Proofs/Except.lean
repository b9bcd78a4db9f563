import Mathlib.Data.List.Forall2

/-!
# Computations that may fail

A computation in several stages ends well exactly when every stage does, and fails with the failure
of the first stage that does not.  These are the inversions by which every chain of stages in the
library is taken apart, so that no proof has to open one by hand.  Two computations are compared by
`Except.Rel`, which lifts a relation between results.
-/

namespace Except

universe u v

variable {ε : Type u} {α β : Type v}

/-- Two stages end well when the first does and the second does on what the first gave. -/
theorem bind_eq_ok_iff {x : Except ε α} {f : α → Except ε β} {b : β} :
    (x >>= f) = .ok b ↔ ∃ a, x = .ok a ∧ f a = .ok b := by
  cases x with
  | error e => simp [bind, Except.bind]
  | ok a => simp [bind, Except.bind]

/-- Two stages fail where the first does, or where the second does on what the first gave. -/
theorem bind_eq_error_iff {x : Except ε α} {f : α → Except ε β} {e : ε} :
    (x >>= f) = .error e ↔ x = .error e ∨ ∃ a, x = .ok a ∧ f a = .error e := by
  cases x with
  | error e' => simp [bind, Except.bind]
  | ok a => simp [bind, Except.bind]

theorem map_eq_ok_iff {x : Except ε α} {f : α → β} {b : β} :
    (f <$> x) = .ok b ↔ ∃ a, x = .ok a ∧ f a = b := by
  cases x with
  | error e => simp [Functor.map, Except.map]
  | ok a => simp [Functor.map, Except.map]

theorem exists_of_any {x : Except ε α} {p : α → Bool} (h : x.toOption.any p) :
    ∃ a, x = .ok a ∧ p a := by
  cases x with
  | error e => cases h
  | ok a => exact ⟨a, rfl, h⟩

@[simp] theorem pure_eq_ok_iff {a b : α} : (pure a : Except ε α) = .ok b ↔ a = b :=
  ⟨fun h => by cases h; rfl, fun h => by rw [h]; rfl⟩

@[simp] theorem pure_ne_error {a : α} {e : ε} : (pure a : Except ε α) ≠ .error e :=
  fun h => by cases h

@[simp] theorem ok_bind (a : α) (f : α → Except ε β) : ((.ok a : Except ε α) >>= f) = f a := rfl

/-! ## Two computations side by side -/

variable {α' β' : Type v} {R : α → α' → Prop} {S : β → β' → Prop}

/-- Both computations fail alike, or both end well in related results. -/
inductive Rel (R : α → α' → Prop) : Except ε α → Except ε α' → Prop
  | error (f : ε) : Rel R (.error f) (.error f)
  | ok {a : α} {a' : α'} (h : R a a') : Rel R (.ok a) (.ok a')

namespace Rel

theorem refl {R : α → α → Prop} (hR : ∀ a, R a a) (x : Except ε α) : Rel R x x := by
  cases x with
  | error f => exact .error f
  | ok a => exact .ok (hR a)

theorem bind_of_eq {x : Except ε α} {y : Except ε α'} {f : α → Except ε β} {g : α' → Except ε β'}
    (hxy : Rel R x y) (hfg : ∀ a a', x = .ok a → y = .ok a' → R a a' → Rel S (f a) (g a')) :
    Rel S (x >>= f) (y >>= g) := by
  cases hxy with
  | error e => exact .error e
  | ok h => exact hfg _ _ rfl rfl h

theorem bind {x : Except ε α} {y : Except ε α'} {f : α → Except ε β} {g : α' → Except ε β'}
    (hxy : Rel R x y) (hfg : ∀ a a', R a a' → Rel S (f a) (g a')) :
    Rel S (x >>= f) (y >>= g) :=
  hxy.bind_of_eq fun a a' _ _ h => hfg a a' h

/-- Two computations that go on from related results so as to end alike. -/
theorem bind_eq {x : Except ε α} {y : Except ε α'} {f : α → Except ε β} {g : α' → Except ε β}
    (hxy : Rel R x y) (hfg : ∀ a a', x = .ok a → y = .ok a' → R a a' → f a = g a') :
    (x >>= f) = (y >>= g) := by
  cases hxy with
  | error e => rfl
  | ok h => exact hfg _ _ rfl rfl h

/-- Two computations that begin alike and go on from there. -/
theorem bind_same (x : Except ε α) {f : α → Except ε β} {g : α → Except ε β'}
    (hfg : ∀ a, Rel S (f a) (g a)) : Rel S (x >>= f) (x >>= g) :=
  (refl (R := Eq) (fun _ => rfl) x).bind fun a _ h => h ▸ hfg a

end Rel

end Except

namespace List

universe u v w

variable {ε : Type u} {α : Type v} {β : Type w}

theorem mapM_append_eq_ok_iff {f : α → Except ε β} {xs ys : List α} {zs : List β} :
    (xs ++ ys).mapM f = .ok zs ↔
      ∃ us ws, xs.mapM f = .ok us ∧ ys.mapM f = .ok ws ∧ zs = us ++ ws := by
  rw [mapM_append, Except.bind_eq_ok_iff]
  constructor
  · rintro ⟨us, hus, h⟩
    obtain ⟨ws, hws, h⟩ := Except.bind_eq_ok_iff.mp h
    exact ⟨us, ws, hus, hws, (Except.pure_eq_ok_iff.mp h).symm⟩
  · rintro ⟨us, ws, hus, hws, rfl⟩
    exact ⟨us, hus, Except.bind_eq_ok_iff.mpr ⟨ws, hws, rfl⟩⟩

theorem mapM_cons_eq_ok_iff {f : α → Except ε β} {x : α} {xs : List α} {zs : List β} :
    (x :: xs).mapM f = .ok zs ↔ ∃ y ys, f x = .ok y ∧ xs.mapM f = .ok ys ∧ zs = y :: ys := by
  rw [mapM_cons, Except.bind_eq_ok_iff]
  constructor
  · rintro ⟨y, hy, h⟩
    obtain ⟨ys, hys, h⟩ := Except.bind_eq_ok_iff.mp h
    exact ⟨y, ys, hy, hys, (Except.pure_eq_ok_iff.mp h).symm⟩
  · rintro ⟨y, ys, hy, hys, rfl⟩
    exact ⟨y, hy, Except.bind_eq_ok_iff.mpr ⟨ys, hys, rfl⟩⟩

/-- Every item of a list goes through a stage, in order, exactly when each of them does alone. -/
theorem mapM_eq_ok_iff_forall₂ {f : α → Except ε β} {xs : List α} {ys : List β} :
    xs.mapM f = .ok ys ↔ Forall₂ (fun x y => f x = .ok y) xs ys := by
  induction xs generalizing ys with
  | nil =>
      rw [mapM_nil, Except.pure_eq_ok_iff, forall₂_nil_left_iff]
      exact eq_comm
  | cons x xs ih =>
      rw [mapM_cons_eq_ok_iff, forall₂_cons_left_iff]
      exact exists₂_congr fun y zs => and_congr_right fun _ => and_congr_left fun _ => ih

/-- What a lookup finds is in the list under the key that was looked up. -/
theorem mem_of_lookup_eq_some [BEq α] [LawfulBEq α] {l : List (α × β)} {k : α} {b : β}
    (h : l.lookup k = some b) : (k, b) ∈ l := by
  obtain ⟨before, after, rfl, -⟩ := lookup_eq_some_iff.mp h
  exact mem_append_right _ mem_cons_self

variable {R : α → β → Prop} {xs : List α} {ys : List β}

/-- Every item of a list that is paired off has its partner in the other list. -/
theorem Forall₂.exists_mem_of_mem (h : Forall₂ R xs ys) {x : α} (hx : x ∈ xs) :
    ∃ y ∈ ys, R x y := by
  induction h with
  | nil => cases hx
  | cons hxy _ ih =>
      rcases mem_cons.mp hx with rfl | hx
      · exact ⟨_, mem_cons_self, hxy⟩
      · obtain ⟨y, hy, hR⟩ := ih hx
        exact ⟨y, mem_cons_of_mem _ hy, hR⟩

/-- A list can be paired off as soon as each of its items can. -/
theorem exists_forall₂_iff : (∃ ys, Forall₂ R xs ys) ↔ ∀ x ∈ xs, ∃ y, R x y := by
  constructor
  · rintro ⟨ys, h⟩ x hx
    obtain ⟨y, -, hR⟩ := h.exists_mem_of_mem hx
    exact ⟨y, hR⟩
  · intro h
    induction xs with
    | nil => exact ⟨[], .nil⟩
    | cons x xs ih =>
        rw [forall_mem_cons] at h
        obtain ⟨y, hR⟩ := h.1
        obtain ⟨ys, hys⟩ := ih h.2
        exact ⟨y :: ys, .cons hR hys⟩

end List
