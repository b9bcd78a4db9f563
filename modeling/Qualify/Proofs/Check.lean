import Mathlib.Data.List.Forall2
import Mathlib.Logic.Basic
import Qualify.Rule.Reader

/-!
# When data are well

Reading a record yields one exactly when reading each of its fields does.  The lemmas here turn such
readings around, one for each way in which readers are put together, down to
`Check.rule_map_eq_valid_iff` for the record that a rule is.
-/

namespace Qualify

namespace Checked

variable {α β : Type}

theorem fmap_eq_valid_iff {f : α → β} {c : Checked α} {b : β} :
    (f <$> c) = valid b ↔ ∃ a, c = valid a ∧ f a = b := by
  cases c with
  | valid a => simp [Functor.map, map]
  | invalid ps => simp [Functor.map, map]

/-- Two parts are well side by side when each of them is. -/
theorem seq_eq_valid_iff {f : Checked (α → β)} {c : Checked α} {b : β} :
    (f <*> c) = valid b ↔ ∃ g, f = valid g ∧ ∃ a, c = valid a ∧ g a = b := by
  cases f with
  | valid g =>
      cases c with
      | valid a => simp [Seq.seq, both, map]
      | invalid ps => simp [Seq.seq, both, map]
  | invalid ps =>
      cases c with
      | valid a => simp [Seq.seq, both, map]
      | invalid qs => simp [Seq.seq, both, map]

theorem andThen_eq_valid_iff {c : Checked α} {f : α → Checked β} {b : β} :
    c.andThen f = valid b ↔ ∃ a, c = valid a ∧ f a = valid b := by
  cases c with
  | valid a => simp [andThen]
  | invalid ps => simp [andThen]

@[simp] theorem under_eq_valid_iff {key : String} {c : Checked α} {a : α} :
    c.under key = valid a ↔ c = valid a := by
  cases c with
  | valid b => simp [under]
  | invalid ps => simp [under]

@[simp] theorem refuse_ne_valid {c : Complaint} {a : α} : refuse c ≠ valid a :=
  fun h => nomatch h

theorem ofExcept_eq_valid_iff {x : Except Failure α} {a : α} :
    ofExcept x = valid a ↔ x = .ok a := by
  cases x with
  | ok b => simp [ofExcept]
  | error f => simp [ofExcept]

theorem result?_eq_some_iff {c : Checked α} {a : α} : c.result? = some a ↔ c = valid a := by
  cases c with
  | valid b => simp [result?]
  | invalid ps => simp [result?]

end Checked

namespace Check

variable {α : Type} {keys : List String} {read : Value → Checked α} {es : Entries} {v : Value}

theorem record_eq_valid_iff {type : String} : record type v = .valid es ↔ v = .map es := by
  cases v with
  | map fs => simp [record]
  | _ => simp [record]

/-- A field that has to be there is well when it is there and what stands there is. -/
theorem required_eq_valid_iff {a : α} :
    required keys read es = .valid a ↔
      ∃ key w, find? es keys = some (key, w) ∧ read w = .valid a := by
  unfold required
  cases find? es keys with
  | none => simp
  | some e =>
      obtain ⟨key, w⟩ := e
      simp [and_assoc]

/-- Another field is well when it is missing, or what stands there is. -/
theorem optional_eq_valid_iff {default a : α} :
    optional keys default read es = .valid a ↔
      (find? es keys = none ∧ a = default) ∨
        ∃ key w, find? es keys = some (key, w) ∧ read w = .valid a := by
  unfold optional
  cases find? es keys with
  | none => simp [eq_comm]
  | some e =>
      obtain ⟨key, w⟩ := e
      simp [and_assoc]

theorem find?_singleton {key : String} {e : String × Value} :
    find? es [key] = some e ↔ e.1 = key ∧ Value.lookup key es = some e.2 := by
  obtain ⟨name, w⟩ := e
  unfold find?
  cases Value.lookup key es with
  | none => simp [find?]
  | some u => simp [eq_comm]

theorem required_singleton_eq_valid_iff {key : String} {a : α} :
    required [key] read es = .valid a ↔ ∃ w, Value.lookup key es = some w ∧ read w = .valid a := by
  unfold required find?
  cases Value.lookup key es with
  | none => simp [find?]
  | some w => simp

theorem optional_singleton_eq_valid_iff {key : String} {default a : α} :
    optional [key] default read es = .valid a ↔
      (Value.lookup key es = none ∧ a = default) ∨
        ∃ w, Value.lookup key es = some w ∧ read w = .valid a := by
  unfold optional find?
  cases Value.lookup key es with
  | none => simp [find?, eq_comm]
  | some w => simp

theorem identifier_eq_valid_iff {s : String} :
    identifier v = .valid s ↔ v.isNull = false ∧ v.toText = .ok s := by
  unfold identifier
  cases v.isNull with
  | true => simp
  | false => simp [Checked.ofExcept_eq_valid_iff]

theorem eachFrom_eq_valid_iff {n : Nat} {xs : List Value} {as : List α} :
    eachFrom read n xs = .valid as ↔ List.Forall₂ (fun x a => read x = .valid a) xs as := by
  induction xs generalizing n as with
  | nil =>
      rw [eachFrom, List.forall₂_nil_left_iff, Checked.valid.injEq]
      exact eq_comm
  | cons x xs ih =>
      simp only [eachFrom, Checked.seq_eq_valid_iff, Checked.fmap_eq_valid_iff,
        Checked.under_eq_valid_iff, ih, List.forall₂_cons_left_iff]
      constructor
      · rintro ⟨_, ⟨a, ha, rfl⟩, as, has, rfl⟩
        exact ⟨a, as, ha, has, rfl⟩
      · rintro ⟨a, as, ha, has, rfl⟩
        exact ⟨_, ⟨a, ha, rfl⟩, as, has, rfl⟩

/-- A list is well when each of its items is, in their order. -/
theorem listOf_eq_valid_iff {as : List α} :
    listOf read v = .valid as ↔
      ∃ xs, v.members? = some xs ∧ List.Forall₂ (fun x a => read x = .valid a) xs as := by
  unfold listOf items
  cases v.members? with
  | none => simp [Checked.refuse, Checked.andThen]
  | some xs => simp [eachFrom_eq_valid_iff]

/-- A table is well when each of its keys and of its values is, in their order. -/
theorem tableEntries_eq_valid_iff {ts : List (String × α)} :
    tableEntries read es = .valid ts ↔
      List.Forall₂ (fun e t => text e.1 = .valid t.1 ∧ read e.2 = .valid t.2) es ts := by
  induction es generalizing ts with
  | nil =>
      rw [tableEntries, List.forall₂_nil_left_iff, Checked.valid.injEq]
      exact eq_comm
  | cons e es ih =>
      obtain ⟨k, w⟩ := e
      simp only [tableEntries, Checked.seq_eq_valid_iff, Checked.fmap_eq_valid_iff,
        Checked.under_eq_valid_iff, ih, List.forall₂_cons_left_iff]
      constructor
      · rintro ⟨_, ⟨_, ⟨_, ⟨s, hs, rfl⟩, a, ha, rfl⟩, rfl⟩, ts, hts, rfl⟩
        exact ⟨(s, a), ts, ⟨hs, ha⟩, hts, rfl⟩
      · rintro ⟨⟨s, a⟩, ts, ⟨hs, ha⟩, hts, rfl⟩
        exact ⟨_, ⟨_, ⟨_, ⟨s, hs, rfl⟩, a, ha, rfl⟩, rfl⟩, ts, hts, rfl⟩

/-- A mapping is a rule when each of the six fields is well. -/
theorem rule_map_eq_valid_iff {r : Rule} :
    rule (.map es) = .valid r ↔
      required ["id"] identifier es = .valid r.id ∧
      optional ["teamId", "team_id"] none (nullable identifier) es = .valid r.teamId ∧
      required ["type"] (choice RuleKind.name RuleKind.all) es = .valid r.kind ∧
      optional ["enabled"] true boolean es = .valid r.enabled ∧
      optional ["order"] 0 integer es = .valid r.order ∧
      optional ["definition"] .null .valid es = .valid r.definition := by
  simp only [rule, record, Checked.andThen_valid, Checked.seq_eq_valid_iff,
    Checked.fmap_eq_valid_iff]
  constructor
  · rintro ⟨_, ⟨_, ⟨_, ⟨_, ⟨_, ⟨id, hid, rfl⟩, teamId, hteamId, rfl⟩, kind, hkind, rfl⟩, enabled,
      henabled, rfl⟩, order, horder, rfl⟩, definition, hdefinition, rfl⟩
    exact ⟨hid, hteamId, hkind, henabled, horder, hdefinition⟩
  · rintro ⟨hid, hteamId, hkind, henabled, horder, hdefinition⟩
    exact ⟨_, ⟨_, ⟨_, ⟨_, ⟨_, ⟨_, hid, rfl⟩, _, hteamId, rfl⟩, _, hkind, rfl⟩, _, henabled, rfl⟩, _,
      horder, rfl⟩, _, hdefinition, rfl⟩

end Check

end Qualify
