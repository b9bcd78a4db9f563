import Mathlib.Data.List.Nodup
import Qualify.Proofs.Value.Entries

/-!
# Changing one value inside a document

A value deep inside a document is reached by one step after the other: under a key of a mapping, at
an entry of it, at a member of a collection.  Each of these steps lifts a change of a value to a
change of what it is inside of, and leaves everything beside it as it is.

Where the texts of the keys take the place of the keys, a later entry overwrites an earlier one
whose key has the same text.  `Value.setEntries_changeKey` says when a change of an entry gets lost
in this way.
-/

namespace Qualify.Value

variable {key key' : String} {f : Value → Value} {k v : Value} {es : List (Value × Value)}

/-! ## Under a key -/

/-- The entries with the value under a text key changed. -/
def changeKey (key : String) (f : Value → Value) : List (Value × Value) → List (Value × Value)
  | [] => []
  | (k, w) :: es =>
    match k with
    | .text k' => if k' = key then (k, f w) :: es else (k, w) :: changeKey key f es
    | _ => (k, w) :: changeKey key f es

theorem changeKey_cons_self (key : String) (f : Value → Value) (w : Value)
    (es : List (Value × Value)) : changeKey key f ((.text key, w) :: es) = (.text key, f w) :: es :=
  if_pos rfl

theorem changeKey_cons_of_ne (h : k ≠ .text key) (f : Value → Value) (w : Value)
    (es : List (Value × Value)) : changeKey key f ((k, w) :: es) = (k, w) :: changeKey key f es := by
  cases k with
  | text s => exact if_neg fun hs => h (congrArg Value.text hs)
  | _ => rfl

theorem lookup_changeKey_self (key : String) (f : Value → Value) (es : List (Value × Value)) :
    lookup key (changeKey key f es) = (lookup key es).map f := by
  induction es with
  | nil => rfl
  | cons e es ih =>
      obtain ⟨k, w⟩ := e
      by_cases hk : k = .text key
      · rw [hk, changeKey_cons_self, lookup_cons_self, lookup_cons_self, Option.map_some]
      · rw [changeKey_cons_of_ne hk, lookup_cons_of_ne hk, lookup_cons_of_ne hk, ih]

theorem lookup_changeKey_of_ne (h : key ≠ key') (f : Value → Value) (es : List (Value × Value)) :
    lookup key (changeKey key' f es) = lookup key es := by
  have hne : Value.text key' ≠ .text key := fun hk => h (Value.text.inj hk).symm
  induction es with
  | nil => rfl
  | cons e es ih =>
      obtain ⟨k, w⟩ := e
      by_cases hk' : k = .text key'
      · rw [hk', changeKey_cons_self, lookup_cons_of_ne hne, lookup_cons_of_ne hne]
      · rw [changeKey_cons_of_ne hk']
        by_cases hk : k = .text key
        · rw [hk, lookup_cons_self, lookup_cons_self]
        · rw [lookup_cons_of_ne hk, lookup_cons_of_ne hk, ih]

/-- A change is lost where the value is set afterwards. -/
theorem withEntry_changeKey_self (key : String) (f : Value → Value) (v : Value)
    (es : List (Value × Value)) : withEntry key v (changeKey key f es) = withEntry key v es := by
  induction es with
  | nil => rfl
  | cons e es ih =>
      obtain ⟨k, w⟩ := e
      by_cases hk : k = .text key
      · rw [hk, changeKey_cons_self, withEntry_cons_self, withEntry_cons_self]
      · rw [changeKey_cons_of_ne hk, withEntry_cons_of_ne hk, withEntry_cons_of_ne hk, ih]

theorem withEntry_changeKey_of_ne (h : key ≠ key') (f : Value → Value) (v : Value)
    (es : List (Value × Value)) :
    withEntry key v (changeKey key' f es) = changeKey key' f (withEntry key v es) := by
  have hne : Value.text key ≠ .text key' := fun hk => h (Value.text.inj hk)
  induction es with
  | nil => exact (changeKey_cons_of_ne hne f v []).symm
  | cons e es ih =>
      obtain ⟨k, w⟩ := e
      by_cases hk : k = .text key
      · rw [hk, changeKey_cons_of_ne hne, withEntry_cons_self, withEntry_cons_self,
          changeKey_cons_of_ne hne]
      · by_cases hk' : k = .text key'
        · rw [hk', changeKey_cons_self, withEntry_cons_of_ne hne.symm,
            withEntry_cons_of_ne hne.symm, changeKey_cons_self]
        · rw [changeKey_cons_of_ne hk', withEntry_cons_of_ne hk, withEntry_cons_of_ne hk,
            changeKey_cons_of_ne hk', ih]

/-- Setting a changed value is setting the value and changing it then. -/
theorem withEntry_apply (key : String) (f : Value → Value) (v : Value) (es : List (Value × Value)) :
    withEntry key (f v) es = changeKey key f (withEntry key v es) := by
  induction es with
  | nil => exact (changeKey_cons_self key f v []).symm
  | cons e es ih =>
      obtain ⟨k, w⟩ := e
      by_cases hk : k = .text key
      · rw [hk, withEntry_cons_self, withEntry_cons_self, changeKey_cons_self]
      · rw [withEntry_cons_of_ne hk, withEntry_cons_of_ne hk, changeKey_cons_of_ne hk, ih]

/-! ## Setting one entry after the other -/

/-- The entries with others set one after the other. -/
def setEntries (es : List (Value × Value)) (ts : List (String × Value)) : List (Value × Value) :=
  ts.foldl (fun acc t => withEntry t.1 t.2 acc) es

theorem setEntries_cons (es : List (Value × Value)) (t : String × Value)
    (ts : List (String × Value)) : setEntries es (t :: ts) = setEntries (withEntry t.1 t.2 es) ts :=
  rfl

theorem lookup_setEntries_of_notMem {ts : List (String × Value)} (h : key ∉ ts.map Prod.fst) :
    lookup key (setEntries es ts) = lookup key es := by
  induction ts generalizing es with
  | nil => rfl
  | cons t ts ih =>
      have ⟨ht, hts⟩ := not_or.mp (List.mem_cons.not.mp h)
      rw [setEntries_cons, ih hts, lookup_withEntry_of_ne ht]

theorem lookup_setEntries_of_mem {ts : List (String × Value)} (hnodup : (ts.map Prod.fst).Nodup)
    {t : String × Value} (h : t ∈ ts) : lookup t.1 (setEntries es ts) = some t.2 := by
  induction ts generalizing es with
  | nil => cases h
  | cons s ts ih =>
      have ⟨hs, hts⟩ := List.nodup_cons.mp hnodup
      rw [setEntries_cons]
      rcases List.mem_cons.mp h with rfl | h
      · rw [lookup_setEntries_of_notMem hs, lookup_withEntry_self]
      · exact ih hts h

theorem filter_setEntries {ts : List (String × Value)} {p : Value → Bool}
    (h : ∀ t ∈ ts, p (.text t.1) = false) :
    (setEntries es ts).filter (fun e => p e.1) = es.filter fun e => p e.1 := by
  induction ts generalizing es with
  | nil => rfl
  | cons t ts ih =>
      have ⟨ht, hts⟩ := List.forall_mem_cons.mp h
      rw [setEntries_cons, ih hts, filter_withEntry ht]

/-- A change of an entry is lost if the entry is among those set, and else it is kept. -/
theorem setEntries_changeKey (key : String) (f : Value → Value) (es : List (Value × Value))
    (ts : List (String × Value)) :
    setEntries (changeKey key f es) ts =
      if key ∈ ts.map Prod.fst then setEntries es ts else changeKey key f (setEntries es ts) := by
  induction ts generalizing es with
  | nil => rfl
  | cons t ts ih =>
      obtain ⟨s, v⟩ := t
      rw [setEntries_cons, setEntries_cons]
      by_cases hs : s = key
      · rw [hs, withEntry_changeKey_self, if_pos (by simp)]
      · have hkey : key ∈ ((s, v) :: ts).map Prod.fst ↔ key ∈ ts.map Prod.fst := by
          simp [Ne.symm hs]
        rw [withEntry_changeKey_of_ne hs, ih]
        simp only [hkey]

/-- The keys of these entries are texts, no two of them the same. -/
def HasTextKeys (es : List (Value × Value)) : Prop :=
  ∃ keys : List String, keys.Nodup ∧ es.map Prod.fst = keys.map Value.text

theorem fst_ne_of_mem {keys : List String} (h : es.map Prod.fst = keys.map Value.text) {s : String}
    (hs : s ∉ keys) {e : Value × Value} (he : e ∈ es) : e.1 ≠ .text s := by
  intro heq
  have hmem : e.1 ∈ keys.map Value.text := h ▸ List.mem_map_of_mem he
  obtain ⟨t, ht, hkey⟩ := List.mem_map.mp hmem
  rw [heq] at hkey
  exact hs (Value.text.inj hkey ▸ ht)

theorem hasTextKeys_nil : HasTextKeys [] := ⟨[], List.nodup_nil, rfl⟩

/-- The first key is a text, and it is none of the keys behind it. -/
theorem HasTextKeys.of_cons (h : HasTextKeys ((k, v) :: es)) :
    HasTextKeys es ∧ ∃ s, k = .text s ∧ ∀ e ∈ es, e.1 ≠ .text s := by
  obtain ⟨keys, hnodup, hkeys⟩ := h
  obtain ⟨s, keys, rfl, hs, htail⟩ := List.map_eq_cons_iff.mp hkeys.symm
  obtain ⟨hnew, hnodup⟩ := List.nodup_cons.mp hnodup
  exact ⟨⟨keys, hnodup, htail.symm⟩, s, hs.symm, fun _ he => fst_ne_of_mem htail.symm hnew he⟩

theorem map_fst_withEntry {keys : List String} (h : es.map Prod.fst = keys.map Value.text) :
    (withEntry key v es).map Prod.fst =
      (if key ∈ keys then keys else keys ++ [key]).map Value.text := by
  induction es generalizing keys with
  | nil =>
      obtain rfl := List.map_eq_nil_iff.mp h.symm
      rfl
  | cons e es ih =>
      obtain ⟨k, w⟩ := e
      obtain ⟨s, keys, rfl, rfl, hkeys⟩ := List.map_eq_cons_iff.mp h.symm
      by_cases hs : s = key
      · simp [withEntry, hs, hkeys]
      · have hkey : key ∈ s :: keys ↔ key ∈ keys := by simp [Ne.symm hs]
        simp only [withEntry, if_neg hs, List.map_cons, ih hkeys.symm, hkey]
        split <;> rfl

theorem HasTextKeys.withEntry (h : HasTextKeys es) (key : String) (v : Value) :
    HasTextKeys (withEntry key v es) := by
  obtain ⟨keys, hnodup, hkeys⟩ := h
  refine ⟨_, ?_, map_fst_withEntry hkeys⟩
  split
  · case isTrue => exact hnodup
  · case isFalse hmem =>
      rw [List.nodup_append]
      refine ⟨hnodup, List.nodup_singleton key, fun s hs t ht => ?_⟩
      rintro rfl
      exact hmem (List.mem_singleton.mp ht ▸ hs)

/-- What stands in a mapping after an entry was set is that entry, or stood there before under
another key. -/
theorem HasTextKeys.mem_withEntry (h : HasTextKeys es) {e : Value × Value}
    (he : e ∈ Value.withEntry key v es) : e = (.text key, v) ∨ e ∈ es ∧ e.1 ≠ .text key := by
  induction es with
  | nil => exact .inl (List.mem_singleton.mp he)
  | cons e' es ih =>
      obtain ⟨k, w⟩ := e'
      obtain ⟨hes, s, rfl, hnew⟩ := h.of_cons
      by_cases hs : text s = text key
      · rw [hs, withEntry_cons_self] at he
        rcases List.mem_cons.mp he with he | he
        · exact .inl he
        · exact .inr ⟨List.mem_cons_of_mem _ he, hs ▸ hnew e he⟩
      · rw [withEntry_cons_of_ne hs] at he
        rcases List.mem_cons.mp he with rfl | he
        · exact .inr ⟨List.mem_cons_self, hs⟩
        · exact (ih hes he).imp_right (And.imp_left (List.mem_cons_of_mem _))

theorem HasTextKeys.setEntries (h : HasTextKeys es) (ts : List (String × Value)) :
    HasTextKeys (setEntries es ts) := by
  induction ts generalizing es with
  | nil => exact h
  | cons t ts ih => exact ih (h.withEntry t.1 t.2)

/-- Of keys that are all different, one at most is changed. -/
theorem HasTextKeys.changeKey_eq_map (h : HasTextKeys es) (key : String) (f : Value → Value) :
    changeKey key f es = es.map fun e => if e.1.text? = some key then (e.1, f e.2) else e := by
  induction es with
  | nil => rfl
  | cons e es ih =>
      obtain ⟨k, w⟩ := e
      obtain ⟨hes, s, rfl, hnew⟩ := h.of_cons
      by_cases heq : s = key
      · have hrest : ∀ e ∈ es, (if e.1.text? = some key then (e.1, f e.2) else e) = e := by
          intro e he
          have hne := hnew e he
          obtain ⟨k, v⟩ := e
          refine if_neg fun h => hne ?_
          cases k with
          | text t => rw [heq, ← Option.some.inj h]
          | _ => cases h
        rw [List.map_cons, List.map_congr_left hrest, List.map_id']
        simp [changeKey, heq, text?]
      · simp [changeKey, heq, text?, ih hes]

/-! ## Down one level -/

/-- A mapping with the value under a text key changed. -/
def atKey (key : String) (f : Value → Value) : Value → Value
  | .map es => .map (changeKey key f es)
  | v => v

/-- A mapping with the value of the entry at a place changed. -/
def atEntry (i : Nat) (f : Value → Value) : Value → Value
  | .map es => .map (es.modify i fun e => (e.1, f e.2))
  | v => v

/-- A list, tuple or set with the member at a place changed. -/
def atMember (i : Nat) (f : Value → Value) : Value → Value
  | .list xs => .list (xs.modify i f)
  | .tuple xs => .tuple (xs.modify i f)
  | .set xs => .set (xs.modify i f)
  | .frozenSet xs => .frozenSet (xs.modify i f)
  | v => v

theorem members?_atMember (i : Nat) (f : Value → Value) (v : Value) :
    (v.atMember i f).members? = v.members?.map fun xs => xs.modify i f := by
  cases v with
  | _ => rfl

end Qualify.Value
