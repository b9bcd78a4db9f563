import Mathlib.Data.Option.Basic
import Qualify.Proofs.Check
import Qualify.Proofs.Except
import Qualify.Proofs.Value.Entries

/-!
# Two readings side by side

When two pieces of data differ in some places only, so do the records that are read from them.  A
relation between results is lifted to data as read (`Checked.Rel`): either something is wrong with
both, or their results are related.  Two tables are related by having the same keys in the same
order and related entries (`TableRel`).  There is one lemma for each way in which readers are put
together.
-/

namespace Qualify

/-! ## Tables -/

/-- Two tables with the same keys in the same order, and related values under each key. -/
def TableRel {κ α α' : Type} (R : κ → α → α' → Prop) : List (κ × α) → List (κ × α') → Prop :=
  List.Forall₂ fun e f => e.1 = f.1 ∧ R e.1 e.2 f.2

namespace TableRel

section

variable {κ α : Type} {R : κ → α → α → Prop}

theorem refl (hR : ∀ k a, R k a a) (es : List (κ × α)) : TableRel R es es :=
  List.forall₂_same.mpr fun e _ => ⟨rfl, hR e.1 e.2⟩

end

variable {R : Value → Value → Value → Prop} {es fs : List (Value × Value)}

theorem lookup (h : TableRel R es fs) (key : String) :
    Option.Rel (R (.text key)) (Value.lookup key es) (Value.lookup key fs) := by
  induction h with
  | nil => exact .none
  | @cons e f es fs hef _ ih =>
      obtain ⟨k, v⟩ := e
      obtain ⟨_, w⟩ := f
      obtain ⟨rfl, hvw⟩ := hef
      by_cases hk : k = .text key
      · rw [hk, Value.lookup_cons_self, Value.lookup_cons_self]
        exact .some (hk ▸ hvw)
      · rw [Value.lookup_cons_of_ne hk, Value.lookup_cons_of_ne hk]
        exact ih

/-- A text key is set to related values in both tables. -/
theorem withEntry {R : Value → Value → Prop} (h : TableRel (fun _ => R) es fs) {v w : Value}
    (hvw : R v w) (s : String) :
    TableRel (fun _ => R) (Value.withEntry s v es) (Value.withEntry s w fs) := by
  induction h with
  | nil => exact .cons ⟨rfl, hvw⟩ .nil
  | @cons e f es fs hef hrest ih =>
      obtain ⟨k, v'⟩ := e
      obtain ⟨_, w'⟩ := f
      obtain ⟨rfl, hvw'⟩ := hef
      by_cases hk : k = .text s
      · rw [hk, Value.withEntry_cons_self, Value.withEntry_cons_self]
        exact .cons ⟨rfl, hvw⟩ hrest
      · rw [Value.withEntry_cons_of_ne hk, Value.withEntry_cons_of_ne hk]
        exact .cons ⟨rfl, hvw'⟩ ih

end TableRel

namespace PointTable

variable {S : Binary64 → Binary64 → Prop} {t u : PointTable} {x y : Binary64}

end PointTable

/-! ## Data as read -/

namespace Checked

variable {α α' β β' : Type} {R : α → α' → Prop} {S : β → β' → Prop}

/-- Something is wrong with both, or both have related results. -/
inductive Rel (R : α → α' → Prop) : Checked α → Checked α' → Prop
  | invalid (ps qs : List Problem) : Rel R (.invalid ps) (.invalid qs)
  | valid {a : α} {a' : α'} (h : R a a') : Rel R (.valid a) (.valid a')

namespace Rel

variable {c : Checked α} {d : Checked α'}

theorem refl {R : α → α → Prop} (hR : ∀ a, R a a) (c : Checked α) : Rel R c c := by
  cases c with
  | invalid ps => exact .invalid ps ps
  | valid a => exact .valid (hR a)

theorem map {f : α → β} {g : α' → β'} (h : Rel R c d) (hfg : ∀ a a', R a a' → S (f a) (g a')) :
    Rel S (f <$> c) (g <$> d) := by
  cases h with
  | invalid ps qs => exact .invalid ps qs
  | valid h => exact .valid (hfg _ _ h)

theorem seq {f : Checked (α → β)} {g : Checked (α' → β')}
    (hfg : Rel (fun f g => ∀ a a', R a a' → S (f a) (g a')) f g) (h : Rel R c d) :
    Rel S (f <*> c) (g <*> d) := by
  cases hfg with
  | invalid ps qs =>
      cases h with
      | invalid => exact .invalid _ _
      | valid => exact .invalid _ _
  | valid hfg =>
      cases h with
      | invalid => exact .invalid _ _
      | valid h => exact .valid (hfg _ _ h)

/-- The same is made of the same results. -/
theorem map_same {c d : Checked α} (h : Rel Eq c d) (f : α → β) : Rel Eq (f <$> c) (f <$> d) :=
  h.map fun _ _ => congrArg f

theorem seq_same {f g : Checked (α → β)} {c d : Checked α} (hfg : Rel Eq f g) (h : Rel Eq c d) :
    Rel Eq (f <*> c) (g <*> d) := by
  refine seq ?_ h
  cases hfg with
  | invalid ps qs => exact .invalid ps qs
  | valid hfg => exact .valid fun _ _ h => congr hfg h

theorem andThen {f : α → Checked β} {g : α' → Checked β'} (h : Rel R c d)
    (hfg : ∀ a a', R a a' → Rel S (f a) (g a')) : Rel S (c.andThen f) (d.andThen g) := by
  cases h with
  | invalid ps qs => exact .invalid ps qs
  | valid h => exact hfg _ _ h

theorem under_under (h : Rel R c d) (key key' : String) : Rel R (c.under key) (d.under key') := by
  cases h with
  | invalid ps qs => exact .invalid _ _
  | valid h => exact .valid h

theorem under (h : Rel R c d) (key : String) : Rel R (c.under key) (d.under key) :=
  h.under_under key key

theorem ofExcept {x : Except Failure α} {y : Except Failure α'} (h : Except.Rel R x y) :
    Rel R (Checked.ofExcept x) (Checked.ofExcept y) := by
  cases h with
  | error f => exact .invalid _ _
  | ok h => exact .valid h

theorem result? (h : Rel R c d) : Option.Rel R c.result? d.result? := by
  cases h with
  | invalid => exact .none
  | valid h => exact .some h

theorem result?_eq {c d : Checked α} (h : Rel Eq c d) : c.result? = d.result? := by
  cases h with
  | invalid => rfl
  | valid h => exact congrArg some h

end Rel

end Checked

/-! ## Records -/

namespace Check

variable {α : Type} {R : Value → Value → Value → Prop} {es fs : Entries} {keys : List String}
variable {read : Value → Checked α}

/-- A field is found in both records under the same key, or in neither. -/
theorem find?_both (h : TableRel R es fs) (keys : List String) :
    (find? es keys = none ∧ find? fs keys = none) ∨
      ∃ key ∈ keys, ∃ v w, find? es keys = some (key, v) ∧ find? fs keys = some (key, w) ∧
        R (.text key) v w := by
  induction keys with
  | nil => exact .inl ⟨rfl, rfl⟩
  | cons key keys ih =>
      unfold find?
      have hlookup := h.lookup key
      generalize Value.lookup key es = v at hlookup ⊢
      generalize Value.lookup key fs = w at hlookup ⊢
      cases hlookup with
      | some hvw => exact .inr ⟨key, List.mem_cons_self, _, _, rfl, rfl, hvw⟩
      | none =>
          rcases ih with hnone | ⟨key', hkey', hfound⟩
          · exact .inl hnone
          · exact .inr ⟨key', List.mem_cons_of_mem _ hkey', hfound⟩

section

variable {S : α → α → Prop} {default : α}

theorem optional_rel (h : TableRel R es fs) (hdefault : S default default)
    (hread : ∀ key ∈ keys, ∀ v w, R (.text key) v w → (read v).Rel S (read w)) :
    (optional keys default read es).Rel S (optional keys default read fs) := by
  unfold optional
  rcases find?_both h keys with ⟨hes, hfs⟩ | ⟨key, hkey, v, w, hes, hfs, hvw⟩
  · rw [hes, hfs]
    exact .valid hdefault
  · rw [hes, hfs]
    exact (hread key hkey v w hvw).under key

/-- Under keys that make no difference both records have the same. -/
theorem read_same (hkeys : ∀ key ∈ keys, ∀ v w, ¬ R (.text key) v w) :
    ∀ key ∈ keys, ∀ v w, v = w ∨ R (.text key) v w → (read v).Rel Eq (read w) := by
  intro key hkey v w hvw
  obtain rfl : v = w := hvw.resolve_right (hkeys key hkey v w)
  exact .refl (fun _ => rfl) _

theorem optional_same (h : TableRel (fun k v w => v = w ∨ R k v w) es fs)
    (hkeys : ∀ key ∈ keys, ∀ v w, ¬ R (.text key) v w) :
    (optional keys default read es).Rel Eq (optional keys default read fs) :=
  optional_rel h rfl (read_same hkeys)

end

/-! ## Lists as read -/

theorem eachFrom_rel {R : Value → Value → Prop} {S : α → α → Prop} {xs ys : List Value}
    (h : List.Forall₂ R xs ys) (hread : ∀ x y, R x y → (read x).Rel S (read y)) (n : Nat) :
    (eachFrom read n xs).Rel (List.Forall₂ S) (eachFrom read n ys) := by
  induction h generalizing n with
  | nil => exact .valid .nil
  | @cons x y xs ys hxy _ ih =>
      have hitem := (hread x y hxy).under (toString n)
      exact (hitem.map fun a b hab as bs has => .cons hab has).seq (ih (n + 1))

/-! ## Tables as read -/

section

variable {R : Value → Value → Prop}

theorem withTextKeys_eq (es : Entries) :
    withTextKeys es = do
      let es ← es.mapM fun e => return (← e.1.toText, e.2)
      return es.foldl (fun acc e => Value.withEntry e.1 e.2 acc) [] := by
  cases es with
  | nil => rfl
  | cons e es => rfl

end

end Check

end Qualify
