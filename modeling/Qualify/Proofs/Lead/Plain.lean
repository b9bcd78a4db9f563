import Mathlib.Data.List.Basic
import Qualify.Json
import Qualify.Lead
import Qualify.Proofs.Except

/-!
# Leads made of plain data

Plain data are what a document can hold: scalars, lists and mappings, and nothing that refers to a
cell or refuses comparison.  Every value on a path into plain data is plain again, so a path without
positions always leads somewhere (`Value.IsPlain.exists_resolve`), and so does a search along several
such paths.
-/

namespace Qualify

namespace Value

/-- A value made of plain data. -/
inductive IsPlain : Value → Prop
  | null : IsPlain .null
  | bool (b : Bool) : IsPlain (.bool b)
  | int (n : Int) : IsPlain (.int n)
  | float (x : Binary64) : IsPlain (.float x)
  | text (s : String) : IsPlain (.text s)
  | list {xs : List Value} : (∀ x ∈ xs, IsPlain x) → IsPlain (.list xs)
  | map {es : List (Value × Value)} : (∀ e ∈ es, IsPlain e.2) → IsPlain (.map es)

variable {v w root : Value} {es : List (Value × Value)} {key path : String}

/-! ## Entries -/

/-- Setting an entry leaves no values behind but the one set and those that were there. -/
theorem snd_of_mem_withEntry {e : Value × Value} (h : e ∈ withEntry key v es) :
    e.2 = v ∨ e ∈ es := by
  fun_induction withEntry key v es with
  | case1 => exact .inl (congrArg Prod.snd (List.mem_singleton.mp h))
  | case2 w es =>
      rcases List.mem_cons.mp h with rfl | h
      · exact .inl rfl
      · exact .inr (List.mem_cons_of_mem _ h)
  | case3 _ _ _ _ ih | case4 _ _ _ _ ih =>
      rcases List.mem_cons.mp h with rfl | h
      · exact .inr List.mem_cons_self
      · exact (ih h).imp_right (List.mem_cons_of_mem _)

theorem forall_withEntry (hv : v.IsPlain) (hes : ∀ e ∈ es, IsPlain e.2) :
    ∀ e ∈ withEntry key v es, IsPlain e.2 := by
  intro e he
  rcases snd_of_mem_withEntry he with h | h
  · exact h ▸ hv
  · exact hes e h

theorem exists_mem_of_lookup (h : lookup key es = some v) : ∃ k, (k, v) ∈ es := by
  fun_induction lookup key es with
  | case1 => cases h
  | case2 w es =>
      cases h
      exact ⟨_, List.mem_cons_self⟩
  | case3 _ _ _ _ ih | case4 _ _ _ ih =>
      obtain ⟨k, hk⟩ := ih h
      exact ⟨k, List.mem_cons_of_mem _ hk⟩

/-! ## Paths -/

/-- Plain data refer to no cell. -/
theorem IsPlain.deref (h : v.IsPlain) : Cells.deref [] v = v := by
  cases h with
  | _ => rfl

theorem IsPlain.isPlain_deref (h : v.IsPlain) : (Cells.deref [] v).IsPlain := by
  rw [h.deref]
  exact h

theorem IsPlain.attributes (h : v.IsPlain) : v.attributes = v := by
  cases h with
  | _ => rfl

/-- What stands under a key in plain data is plain, also if there is nothing. -/
theorem isPlain_lookup_getD (hes : ∀ e ∈ es, IsPlain e.2) : ((lookup key es).getD .null).IsPlain := by
  cases h : lookup key es with
  | none => exact .null
  | some v =>
      obtain ⟨k, hk⟩ := exists_mem_of_lookup h
      exact hes _ hk

/-- One step from plain data to a key leads to plain data. -/
theorem IsPlain.exists_step (h : v.IsPlain) {segment : List Char}
    (hkey : isPosition segment = false) : ∃ w, v.step [] segment = .ok w ∧ w.IsPlain := by
  cases h with
  | map hes =>
      exact ⟨_, rfl, (isPlain_lookup_getD hes).isPlain_deref⟩
  | list hxs => exact ⟨.null, by simp [step, hkey], .null⟩
  | _ => exact ⟨.null, rfl, .null⟩

theorem IsPlain.exists_walk {segments : List (List Char)} (h : v.IsPlain)
    (hkeys : ∀ s ∈ segments, isPosition s = false) : ∃ w, v.walk [] segments = .ok w ∧ w.IsPlain := by
  induction segments generalizing v with
  | nil => exact ⟨v, rfl, h⟩
  | cons s rest ih =>
      rw [List.forall_mem_cons] at hkeys
      rw [walk_cons]
      split
      · exact ⟨.null, rfl, .null⟩
      · obtain ⟨w, hstep, hw⟩ := h.exists_step hkeys.1
        rw [hstep]
        exact ih hw hkeys.2

/-- A path is one of keys: none of its segments is a position. -/
def IsKeyPath (path : String) : Prop := ∀ s ∈ segments path, isPosition s = false

instance : DecidablePred IsKeyPath := fun _ => inferInstanceAs (Decidable (∀ s ∈ _, _))

/-- A path of keys through plain data leads to plain data. -/
theorem IsPlain.exists_resolve (h : root.IsPlain) (hpath : IsKeyPath path) :
    ∃ w, root.resolve [] path = .ok w ∧ w.IsPlain := by
  unfold resolve
  split
  · exact ⟨.null, rfl, .null⟩
  · rw [h.deref, h.attributes]
    exact h.exists_walk hpath

theorem IsPlain.exists_isFilled (h : v.IsPlain) : ∃ b, v.isFilled = .ok b := by
  cases h with
  | _ => exact ⟨_, rfl⟩

/-- A search along paths of keys through plain data comes to an end. -/
theorem IsPlain.exists_firstFilled (h : root.IsPlain) {paths : List String}
    (hpaths : ∀ p ∈ paths, IsKeyPath p) : ∃ w, root.firstFilled [] paths = .ok w := by
  induction paths with
  | nil => exact ⟨.null, rfl⟩
  | cons p ps ih =>
      rw [List.forall_mem_cons] at hpaths
      obtain ⟨w, hresolve, hw⟩ := h.exists_resolve hpaths.1
      obtain ⟨b, hfilled⟩ := hw.exists_isFilled
      rw [firstFilled, hresolve, Except.ok_bind, hfilled, Except.ok_bind]
      cases b with
      | true => exact ⟨w, rfl⟩
      | false => exact ih hpaths.2

end Value

namespace Json

mutual

/-- What a document holds is plain. -/
theorem isPlain_toValue (j : Json) : j.toValue.IsPlain :=
  match j with
  | .null => .null
  | .bool b => .bool b
  | .int n => .int n
  | .float x => .float x
  | .text s => .text s
  | .array xs => .list (forall_toValues xs)
  | .object es => .map (forall_toEntries es (List.forall_mem_nil _))

theorem forall_toValues (xs : List Json) : ∀ v ∈ toValues xs, v.IsPlain :=
  match xs with
  | [] => List.forall_mem_nil _
  | x :: xs => List.forall_mem_cons.mpr ⟨isPlain_toValue x, forall_toValues xs⟩

theorem forall_toEntries (es : List (String × Json)) {before : List (Value × Value)}
    (hbefore : ∀ e ∈ before, e.2.IsPlain) : ∀ e ∈ toEntries es before, e.2.IsPlain :=
  match es with
  | [] => hbefore
  | (_, x) :: es => forall_toEntries es (Value.forall_withEntry (isPlain_toValue x) hbefore)

end

end Json

namespace Lead

/-- A lead made of plain data. -/
structure IsPlain (l : Lead) : Prop where
  cells : l.cells = []
  root : l.root.IsPlain

variable {l : Lead}

theorem IsPlain.exists_resolve (h : l.IsPlain) {path : String} (hpath : Value.IsKeyPath path) :
    ∃ w, l.resolve path = .ok w := by
  obtain ⟨w, hw, -⟩ := h.root.exists_resolve hpath
  exact ⟨w, by rw [resolve, h.cells, hw]⟩

theorem IsPlain.exists_firstFilled (h : l.IsPlain) {paths : List String}
    (hpaths : ∀ p ∈ paths, Value.IsKeyPath p) : ∃ w, l.firstFilled paths = .ok w := by
  rw [firstFilled, h.cells]
  exact h.root.exists_firstFilled hpaths

theorem isPlain_mappingOrEmpty {v : Option Value} (h : ∀ w, v = some w → w.IsPlain) :
    (mappingOrEmpty [] v).IsPlain := by
  have hempty : (Value.map []).IsPlain := .map (List.forall_mem_nil _)
  cases v with
  | none => exact hempty
  | some w =>
      rw [mappingOrEmpty, (h w rfl).deref]
      split
      · exact h w rfl
      · exact hempty

/-- A mapping of plain data is a lead made of plain data. -/
theorem isPlain_ofEntries {es : List (Value × Value)} (hes : ∀ e ∈ es, e.2.IsPlain) :
    (ofEntries [] es).IsPlain := by
  have hlookup : ∀ key v, Value.lookup key es = some v → v.IsPlain := by
    intro key v h
    obtain ⟨k, hk⟩ := Value.exists_mem_of_lookup h
    exact hes _ hk
  have hown : ∀ key, (Cells.deref [] ((Value.lookup key es).getD .null)).IsPlain :=
    fun key => (Value.isPlain_lookup_getD hes).isPlain_deref
  have hextra : ∀ e ∈ es.filter (fun e => !isOwnKey e.1), e.2.IsPlain :=
    fun e he => hes e (List.mem_of_mem_filter he)
  refine ⟨rfl, .map ?_⟩
  refine Value.forall_withEntry (isPlain_mappingOrEmpty ?_) <|
    Value.forall_withEntry (isPlain_mappingOrEmpty (hlookup "fields")) <|
    Value.forall_withEntry (hown "domain") <| Value.forall_withEntry (hown "company") <|
    Value.forall_withEntry (hown "name") <| Value.forall_withEntry (hown "email") hextra
  intro w hw
  rcases Option.or_eq_some_iff.mp hw with hw | ⟨-, hw⟩
  · exact hlookup _ w hw
  · exact hlookup _ w hw

/-- An object of a document is a lead made of plain data. -/
theorem exists_isPlain_ofObject (entries : List (String × Json)) :
    ∃ l, ofValue? [] (Json.object entries).toValue = some l ∧ l.IsPlain :=
  ⟨_, rfl, isPlain_ofEntries (Json.forall_toEntries entries (List.forall_mem_nil _))⟩

end Lead

end Qualify
