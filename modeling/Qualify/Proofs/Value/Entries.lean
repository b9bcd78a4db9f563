import Qualify.Proofs.Except
import Qualify.Proofs.Lead.Plain

/-!
# Entries under keys

Setting an entry of a mapping changes what stands under its key and under no other.  A path of keys
takes one entry after the other: it leads somewhere in every value, and where it leads is told by
`Value.entry` alone (`Value.resolve_eq_entries`).
-/

namespace Qualify.Value

variable {key key' : String} {k v w : Value} {es : List (Value × Value)} {cells : Cells}

/-! ## An entry in front -/

theorem lookup_cons_self (key : String) (v : Value) (es : List (Value × Value)) :
    lookup key ((.text key, v) :: es) = some v := if_pos rfl

theorem lookup_cons_of_ne (h : k ≠ .text key) (v : Value) (es : List (Value × Value)) :
    lookup key ((k, v) :: es) = lookup key es := by
  cases k with
  | text s => exact if_neg fun hs => h (congrArg Value.text hs)
  | _ => rfl

theorem withEntry_cons_self (key : String) (v w : Value) (es : List (Value × Value)) :
    withEntry key v ((.text key, w) :: es) = (.text key, v) :: es := if_pos rfl

theorem withEntry_cons_of_ne (h : k ≠ .text key) (v w : Value) (es : List (Value × Value)) :
    withEntry key v ((k, w) :: es) = (k, w) :: withEntry key v es := by
  cases k with
  | text s => exact if_neg fun hs => h (congrArg Value.text hs)
  | _ => rfl

/-! ## Setting an entry -/

@[simp] theorem lookup_withEntry_self (key : String) (v : Value) (es : List (Value × Value)) :
    lookup key (withEntry key v es) = some v := by
  induction es with
  | nil => exact lookup_cons_self key v []
  | cons e es ih =>
      obtain ⟨k, w⟩ := e
      by_cases hk : k = .text key
      · rw [hk, withEntry_cons_self, lookup_cons_self]
      · rw [withEntry_cons_of_ne hk, lookup_cons_of_ne hk, ih]

theorem lookup_withEntry_of_ne (h : key ≠ key') (v : Value) (es : List (Value × Value)) :
    lookup key (withEntry key' v es) = lookup key es := by
  have hne : Value.text key' ≠ .text key := fun hk => h (Value.text.inj hk).symm
  induction es with
  | nil => exact lookup_cons_of_ne hne v []
  | cons e es ih =>
      obtain ⟨k, w⟩ := e
      by_cases hk' : k = .text key'
      · rw [hk', withEntry_cons_self, lookup_cons_of_ne hne, lookup_cons_of_ne hne]
      · rw [withEntry_cons_of_ne hk']
        by_cases hk : k = .text key
        · rw [hk, lookup_cons_self, lookup_cons_self]
        · rw [lookup_cons_of_ne hk, lookup_cons_of_ne hk, ih]

/-- Entries that a filter on keys drops may as well not be set. -/
theorem filter_withEntry {p : Value → Bool} (h : p (.text key) = false) (v : Value) :
    (withEntry key v es).filter (fun e => p e.1) = es.filter fun e => p e.1 := by
  induction es with
  | nil => exact List.filter_cons_of_neg (by simp [h])
  | cons e es ih =>
      obtain ⟨k, w⟩ := e
      by_cases hk : k = .text key
      · simp [hk, withEntry_cons_self, h]
      · rw [withEntry_cons_of_ne hk, List.filter_cons, List.filter_cons, ih]

/-- A filter on keys leaves what stands under a key that it keeps. -/
theorem lookup_filter {p : Value → Bool} (h : p (.text key) = true) :
    lookup key (es.filter fun e => p e.1) = lookup key es := by
  induction es with
  | nil => rfl
  | cons e es ih =>
      obtain ⟨k, v⟩ := e
      rw [List.filter_cons]
      by_cases hk : k = .text key
      · rw [hk, if_pos h, lookup_cons_self, lookup_cons_self]
      · rw [lookup_cons_of_ne hk, ← ih]
        split
        · exact lookup_cons_of_ne hk v _
        · rfl

/-- What stands under a key is changed as all values are. -/
theorem lookup_map_snd (key : String) (f : Value → Value) (es : List (Value × Value)) :
    lookup key (es.map fun e => (e.1, f e.2)) = (lookup key es).map f := by
  induction es with
  | nil => rfl
  | cons e es ih =>
      obtain ⟨k, v⟩ := e
      rw [List.map_cons]
      by_cases hk : k = .text key
      · rw [hk, lookup_cons_self, lookup_cons_self, Option.map_some]
      · rw [lookup_cons_of_ne hk, lookup_cons_of_ne hk, ih]

/-- What stands under a key of two lists of entries one behind the other. -/
theorem lookup_append (key : String) (es fs : List (Value × Value)) :
    lookup key (es ++ fs) = (lookup key es).or (lookup key fs) := by
  induction es with
  | nil => rfl
  | cons e es ih =>
      obtain ⟨k, v⟩ := e
      rw [List.cons_append]
      by_cases hk : k = .text key
      · rw [hk, lookup_cons_self, lookup_cons_self, Option.some_or]
      · rw [lookup_cons_of_ne hk, lookup_cons_of_ne hk, ih]

theorem lookup_of_forall_ne {key : String} {es : List (Value × Value)}
    (h : ∀ e ∈ es, e.1 ≠ .text key) : lookup key es = none := by
  induction es with
  | nil => rfl
  | cons e es ih =>
      obtain ⟨hk, hes⟩ := List.forall_mem_cons.mp h
      rw [lookup_cons_of_ne hk, ih hes]

/-! ## Walking along keys -/

/-- The value of the entry under a key, null if there is none. -/
def entry (cells : Cells) (v : Value) (key : String) : Value :=
  cells.deref ((v.get? key).getD .null)

theorem entry_map (cells : Cells) (es : List (Value × Value)) (key : String) :
    (Value.map es).entry cells key = cells.deref ((lookup key es).getD .null) := rfl

/-- The value that keys lead to, one after the other. -/
def entries (cells : Cells) (v : Value) (keys : List String) : Value := keys.foldl (entry cells) v

theorem entries_null (cells : Cells) (keys : List String) :
    Value.null.entries cells keys = .null := by
  induction keys with
  | nil => rfl
  | cons key keys ih => exact ih

theorem step_key {segment : List Char} (h : isPosition segment = false) :
    v.step cells segment = .ok (v.entry cells (String.ofList segment)) := by
  cases v with
  | list xs => simp [step, h, entry, get?, entries?, Cells.deref]
  | tuple xs => simp [step, h, entry, get?, entries?, Cells.deref]
  | _ => rfl

theorem walk_keys {segments : List (List Char)} (h : ∀ s ∈ segments, isPosition s = false) :
    v.walk cells segments = .ok (v.entries cells (segments.map String.ofList)) := by
  induction segments generalizing v with
  | nil => rfl
  | cons s rest ih =>
      rw [List.forall_mem_cons] at h
      rw [walk_cons]
      split
      · case isTrue hnull =>
          cases v with
          | null => exact congrArg Except.ok (entries_null cells _).symm
          | _ => cases hnull
      · rw [step_key h.1, Except.ok_bind]
        exact ih h.2

/-- A path of keys through a mapping leads to the entry that the keys name one after the other. -/
theorem resolve_eq_entries {path : String} (hpath : path ≠ "") (hkeys : IsKeyPath path) :
    (Value.map es).resolve cells path =
      .ok ((Value.map es).entries cells ((segments path).map String.ofList)) := by
  rw [resolve, if_neg hpath]
  exact walk_keys hkeys

/-- Searches along the same paths find related values if they stop at the same places. -/
theorem firstFilled_rel {R : Value → Value → Prop} (hnull : R .null .null)
    (hfilled : ∀ v w, R v w → v.isFilled = w.isFilled) {cells cells' : Cells} {root root' : Value}
    {paths : List String}
    (h : ∀ p ∈ paths, Except.Rel R (root.resolve cells p) (root'.resolve cells' p)) :
    Except.Rel R (root.firstFilled cells paths) (root'.firstFilled cells' paths) := by
  induction paths with
  | nil => exact .ok hnull
  | cons p ps ih =>
      rw [List.forall_mem_cons] at h
      refine h.1.bind fun v w hvw => ?_
      rw [hfilled v w hvw]
      refine .bind_same w.isFilled fun filled => ?_
      cases filled with
      | true => exact .ok hvw
      | false => exact ih h.2

end Qualify.Value
