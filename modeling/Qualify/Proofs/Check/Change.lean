import Qualify.Proofs.Check.Pair
import Qualify.Proofs.Value.Change

/-!
# Readers that carry a change

A reader carries a change of the data if what it reads from the changed data is what it reads from
the data, changed accordingly, and if it finds the same problems in both (`Check.Carries`).  A
change is carried from the place where it is made outwards, by one lemma for each way in which
readers are put together.
-/

namespace Qualify

namespace Checked

variable {α β γ : Type}

theorem map_under (key : String) (g : α → β) (c : Checked α) :
    (c.map g).under key = (c.under key).map g := by
  cases c with
  | valid a => rfl
  | invalid ps => rfl

theorem map_id (c : Checked α) : c.map id = c := by
  cases c with
  | valid a => rfl
  | invalid ps => rfl

section

variable {c : Checked α} {d : Checked β} {join : α → β → γ} {g : α → α} {h : β → β} {k : γ → γ}

/-- Two parts that are changed side by side make a changed whole. -/
theorem seq_map (hjoin : ∀ a b, join (g a) (h b) = k (join a b)) :
    (join <$> c.map g <*> d.map h) = (join <$> c <*> d).map k := by
  cases c with
  | valid a =>
      cases d with
      | valid b => exact congrArg valid (hjoin a b)
      | invalid qs => rfl
  | invalid ps =>
      cases d with
      | valid b => rfl
      | invalid qs => rfl

theorem seq_map_left (hjoin : ∀ a b, join (g a) b = k (join a b)) :
    (join <$> c.map g <*> d) = (join <$> c <*> d).map k := by
  have hmap := seq_map (c := c) (d := d) (h := id) hjoin
  rwa [map_id] at hmap

theorem seq_map_right (hjoin : ∀ a b, join a (h b) = k (join a b)) :
    (join <$> c <*> d.map h) = (join <$> c <*> d).map k := by
  have hmap := seq_map (c := c) (d := d) (g := id) hjoin
  rwa [map_id] at hmap

/-- The last part of a whole is changed. -/
theorem seq_valid_map {f : Checked (α → γ)} {a a' : α}
    (hf : ∀ join, f = valid join → join a' = k (join a)) :
    (f <*> valid a') = (f <*> valid a).map k := by
  cases f with
  | valid join => exact congrArg valid (hf join rfl)
  | invalid ps => rfl

/-- A check of the whole that takes a change over. -/
theorem andThen_map {f : α → Checked γ} (hf : ∀ a, f (g a) = (f a).map k) :
    (c.map g).andThen f = (c.andThen f).map k := by
  cases c with
  | valid a => exact hf a
  | invalid ps => rfl

end

end Checked

namespace Check

variable {α : Type} {read : Value → Checked α} {f : Value → Value} {g : α → α} {es : Entries}
variable {key : String}

/-- A change of the data comes out as a change of the result. -/
def Carries (read : Value → Checked α) (f : Value → Value) (g : α → α) : Prop :=
  ∀ v, read (f v) = (read v).map g

/-! ## Lists -/

theorem eachFrom_modify (h : Carries read f g) (n i : Nat) (xs : List Value) :
    eachFrom read n (xs.modify i f) = (eachFrom read n xs).map fun rs => rs.modify i g := by
  induction xs generalizing n i with
  | nil => cases i <;> rfl
  | cons x xs ih =>
      cases i with
      | zero =>
          rw [List.modify_zero_cons, eachFrom, eachFrom, h x, Checked.map_under]
          exact Checked.seq_map_left fun r rs => (List.modify_zero_cons ..).symm
      | succ i =>
          rw [List.modify_succ_cons, eachFrom, eachFrom, ih]
          exact Checked.seq_map_right fun r rs => (List.modify_succ_cons ..).symm

theorem Carries.listOf (h : Carries read f g) (i : Nat) :
    Carries (listOf read) (Value.atMember i f) fun rs => rs.modify i g := by
  intro v
  rw [Check.listOf, Check.listOf, items, items, Value.members?_atMember]
  cases v.members? with
  | none => rfl
  | some xs => exact eachFrom_modify h 0 i xs

/-! ## Records -/

theorem find?_changeKey_self (key : String) (f : Value → Value) (es : Entries) :
    find? (Value.changeKey key f es) [key] = (find? es [key]).map fun e => (e.1, f e.2) := by
  unfold find?
  rw [Value.lookup_changeKey_self]
  cases Value.lookup key es with
  | none => rfl
  | some v => rfl

theorem find?_changeKey_of_notMem {keys : List String} (h : key ∉ keys) (f : Value → Value)
    (es : Entries) : find? (Value.changeKey key f es) keys = find? es keys := by
  induction keys with
  | nil => rfl
  | cons k keys ih =>
      rw [List.mem_cons, not_or] at h
      rw [find?, find?, Value.lookup_changeKey_of_ne (Ne.symm h.1), ih h.2]

theorem find?_withEntry_of_notMem {keys : List String} (h : key ∉ keys) (v : Value)
    (es : Entries) : find? (Value.withEntry key v es) keys = find? es keys := by
  induction keys with
  | nil => rfl
  | cons k keys ih =>
      rw [List.mem_cons, not_or] at h
      rw [find?, find?, Value.lookup_withEntry_of_ne (Ne.symm h.1), ih h.2]

theorem required_congr {keys : List String} {fs : Entries} (h : find? es keys = find? fs keys) :
    required keys read es = required keys read fs := by
  rw [required, required, h]

theorem optional_congr {keys : List String} {fs : Entries} {default : α}
    (h : find? es keys = find? fs keys) :
    optional keys default read es = optional keys default read fs := by
  rw [optional, optional, h]

/-- A change of what stands under the key of a field is carried if it is where the field is read. -/
theorem required_changeKey
    (h : ∀ v, Value.lookup key es = some v → read (f v) = (read v).map g) :
    required [key] read (Value.changeKey key f es) = (required [key] read es).map g := by
  rw [required, required, find?_changeKey_self]
  cases hfind : find? es [key] with
  | none => rfl
  | some e =>
      obtain ⟨rfl, hlookup⟩ := find?_singleton.mp hfind
      exact (congrArg _ (h e.2 hlookup)).trans (Checked.map_under _ g _)

theorem optional_changeKey {default : α} (hdefault : g default = default)
    (h : Carries read f g) :
    optional [key] default read (Value.changeKey key f es) =
      (optional [key] default read es).map g := by
  rw [optional, optional, find?_changeKey_self]
  cases find? es [key] with
  | none => exact congrArg Checked.valid hdefault.symm
  | some e => exact (congrArg _ (h e.2)).trans (Checked.map_under _ g _)

/-! ## Tables with texts as keys -/

/-- The table with the row of a name changed. -/
def changeRow (name : Option String) (g : α → α) (ts : List (String × α)) : List (String × α) :=
  ts.map fun t => if name = some t.1 then (t.1, g t.2) else t

@[simp] theorem changeRow_none (g : α → α) (ts : List (String × α)) : changeRow none g ts = ts := by
  simp [changeRow]

/-- A row whose key is a text bears this text. -/
theorem tableEntries_text (s : String) (v : Value) (es : Entries) :
    tableEntries read ((.text s, v) :: es) =
      ((fun a ts => (s, a) :: ts) <$> (read v).under s <*> tableEntries read es) := by
  rw [tableEntries]
  cases read v with
  | valid a => cases tableEntries read es <;> rfl
  | invalid ps => cases tableEntries read es <;> rfl

theorem tableEntries_changeKey (hes : Value.HasTextKeys es) (key : String)
    (h : Carries read f g) :
    tableEntries read (Value.changeKey key f es) =
      (tableEntries read es).map (changeRow (some key) g) := by
  rw [hes.changeKey_eq_map]
  induction es with
  | nil => rfl
  | cons e es ih =>
      obtain ⟨k, v⟩ := e
      obtain ⟨htail, s, rfl, -⟩ := hes.of_cons
      have hrow : read (if s = key then f v else v) =
          (read v).map fun a => if s = key then g a else a := by
        split
        · exact h v
        · exact (Checked.map_id _).symm
      have hhead : (if (Value.text s).text? = some key then (Value.text s, f v) else (.text s, v)) =
          (Value.text s, if s = key then f v else v) := by
        by_cases hs : s = key <;> simp [Value.text?, hs]
      rw [List.map_cons, hhead, tableEntries_text, tableEntries_text, hrow, Checked.map_under,
        ih htail]
      refine Checked.seq_map fun a ts => ?_
      by_cases hs : s = key <;> simp [changeRow, hs, Ne.symm]

/-- The name of the row that the entry at a place gives: the text of its key, unless there is no
such entry, its key has no text, or the entry is overwritten by a later one with the same text. -/
def rowName? (es : Entries) (i : Nat) : Option String :=
  match es.drop i with
  | [] => none
  | e :: rest =>
    match e.1.toText with
    | .error _ => none
    | .ok s => if ∃ e' ∈ rest, e'.1.toText = .ok s then none else some s

/-- Entries with the texts of their keys. -/
def keyTexts (es : Entries) : Except Failure (List (String × Value)) :=
  es.mapM fun e => return (← e.1.toText, e.2)

theorem withTextKeys_eq_setEntries (es : Entries) :
    withTextKeys es = Value.setEntries [] <$> keyTexts es := by
  rw [withTextKeys_eq, map_eq_pure_bind]
  rfl

theorem hasTextKeys_withTextKeys {fs : Entries} (h : withTextKeys es = .ok fs) :
    Value.HasTextKeys fs := by
  rw [withTextKeys_eq_setEntries] at h
  obtain ⟨ts, -, rfl⟩ := Except.map_eq_ok_iff.mp h
  exact Value.hasTextKeys_nil.setEntries ts

theorem keyTexts_cons (k v : Value) (es : Entries) :
    keyTexts ((k, v) :: es) = do return (← k.toText, v) :: (← keyTexts es) := by
  rw [keyTexts, List.mapM_cons]
  simp only [bind_assoc, pure_bind]
  rfl

/-- The first entry is set first. -/
theorem setEntries_keyTexts_cons (acc : Entries) (k v : Value) (es : Entries) :
    Value.setEntries acc <$> keyTexts ((k, v) :: es) =
      k.toText >>= fun s => Value.setEntries (Value.withEntry s v acc) <$> keyTexts es := by
  rw [keyTexts_cons]
  cases k.toText with
  | error e => rfl
  | ok s => cases keyTexts es <;> rfl

theorem mem_keyTexts {ts : List (String × Value)} (h : keyTexts es = .ok ts) {s : String} :
    s ∈ ts.map Prod.fst ↔ ∃ e ∈ es, e.1.toText = .ok s := by
  induction es generalizing ts with
  | nil =>
      cases h
      simp
  | cons e es ih =>
      obtain ⟨k, v⟩ := e
      rw [keyTexts_cons] at h
      obtain ⟨t, ht, h⟩ := Except.bind_eq_ok_iff.mp h
      obtain ⟨ts', hts', h⟩ := Except.bind_eq_ok_iff.mp h
      cases h
      simp [ih hts', ht, eq_comm]

theorem mem_setEntries {acc : Entries} (hacc : Value.HasTextKeys acc) {ts : List (String × Value)}
    (h : keyTexts es = .ok ts) {e : Value × Value} (he : e ∈ Value.setEntries acc ts) :
    (e ∈ acc ∧ ∀ e' ∈ es, ∀ s, e'.1.toText = .ok s → e.1 ≠ .text s) ∨
      ∃ i k s, es[i]? = some (k, e.2) ∧ rowName? es i = some s ∧ e.1 = .text s := by
  -- what was set before is still there only if no later key has the same text
  induction es generalizing acc ts with
  | nil =>
      cases h
      exact .inl ⟨he, List.forall_mem_nil _⟩
  | cons e' es ih =>
      obtain ⟨k, v⟩ := e'
      rw [keyTexts_cons] at h
      obtain ⟨s, hs, h⟩ := Except.bind_eq_ok_iff.mp h
      obtain ⟨ts', hts', h⟩ := Except.bind_eq_ok_iff.mp h
      cases h
      rcases ih (hacc.withEntry s v) hts' he with ⟨hmem, hlater⟩ | ⟨i, k', s', hi, hname, hkey⟩
      · rcases hacc.mem_withEntry hmem with rfl | ⟨hmem, hne⟩
        · refine .inr ⟨0, k, s, rfl, ?_, rfl⟩
          rw [rowName?, List.drop_zero]
          dsimp only
          rw [hs]
          exact if_neg fun ⟨e, he, hsame⟩ => hlater e he s hsame rfl
        · refine .inl ⟨hmem, List.forall_mem_cons.mpr ⟨fun t ht => ?_, hlater⟩⟩
          obtain rfl : s = t := Except.ok.inj (hs.symm.trans ht)
          exact hne
      · exact .inr ⟨i + 1, k', s', hi, hname, hkey⟩

/-- Every row is given by the entry at some place. -/
theorem exists_rowName? {fs : Entries} (h : withTextKeys es = .ok fs) {e : Value × Value}
    (he : e ∈ fs) : ∃ i k s, es[i]? = some (k, e.2) ∧ rowName? es i = some s ∧ e.1 = .text s := by
  rw [withTextKeys_eq_setEntries] at h
  obtain ⟨ts, hts, rfl⟩ := Except.map_eq_ok_iff.mp h
  rcases mem_setEntries Value.hasTextKeys_nil hts he with ⟨hnil, -⟩ | hrow
  · cases hnil
  · exact hrow

/-- A change of an entry is a change under the name of the row that it gives. -/
theorem setEntries_modify (f : Value → Value) (acc es : Entries) (i : Nat) :
    Value.setEntries acc <$> keyTexts (es.modify i fun e => (e.1, f e.2)) =
      (fun fs => (rowName? es i).elim fs fun s => Value.changeKey s f fs) <$>
        Value.setEntries acc <$> keyTexts es := by
  induction es generalizing acc i with
  | nil => cases i <;> rfl
  | cons e es ih =>
      obtain ⟨k, v⟩ := e
      cases i with
      | zero =>
          rw [List.modify_zero_cons, setEntries_keyTexts_cons, setEntries_keyTexts_cons, rowName?,
            List.drop_zero]
          dsimp only
          cases k.toText with
          | error e => rfl
          | ok s =>
              rw [Except.ok_bind, Except.ok_bind, Value.withEntry_apply]
              -- the later keys tell whether the change is lost again
              cases hts : keyTexts es with
              | error e => rfl
              | ok ts =>
                  refine congrArg Except.ok ?_
                  rw [Value.setEntries_changeKey]
                  simp only [mem_keyTexts hts]
                  split <;> rfl
      | succ i =>
          rw [List.modify_succ_cons, setEntries_keyTexts_cons, setEntries_keyTexts_cons]
          cases k.toText with
          | error e => rfl
          | ok s => exact ih _ i

/-- A change of an entry of a table with texts as keys is carried to the row that the entry
gives. -/
theorem tableEntries_modify (h : Carries read f g) (es : Entries) (i : Nat) :
    (Checked.ofExcept (withTextKeys (es.modify i fun e => (e.1, f e.2)))).andThen
        (tableEntries read) =
      ((Checked.ofExcept (withTextKeys es)).andThen (tableEntries read)).map
        (changeRow (rowName? es i) g) := by
  rw [withTextKeys_eq_setEntries, setEntries_modify, ← withTextKeys_eq_setEntries]
  cases hfs : withTextKeys es with
  | error e => rfl
  | ok fs =>
      change tableEntries read _ = (tableEntries read fs).map _
      cases rowName? es i with
      | none =>
          rw [funext (changeRow_none g)]
          exact (Checked.map_id _).symm
      | some s => exact tableEntries_changeKey (hasTextKeys_withTextKeys hfs) s h

/-- The rows bear the texts of the keys. -/
theorem map_fst_of_tableEntries {keys : List String} (hes : es.map Prod.fst = keys.map Value.text)
    {ts : List (String × α)} (h : tableEntries read es = .valid ts) : ts.map Prod.fst = keys := by
  have hrows := tableEntries_eq_valid_iff.mp h
  clear h
  induction hrows generalizing keys with
  | nil => exact (List.map_eq_nil_iff.mp hes.symm).symm
  | cons hrow _ ih =>
      obtain ⟨s, keys, rfl, hs, htail⟩ := List.map_eq_cons_iff.mp hes.symm
      rw [← hs] at hrow
      cases hrow.1
      rw [List.map_cons, ih htail.symm]

/-- Each row of a table with texts as keys is given by an entry under its name, and no two rows have
one name. -/
theorem rows_of_tableEntries {ts : List (String × α)}
    (h : (Checked.ofExcept (withTextKeys es)).andThen (tableEntries read) = .valid ts) :
    (ts.map Prod.fst).Nodup ∧ ∀ t ∈ ts, ∃ i k v, es[i]? = some (k, v) ∧
      rowName? es i = some t.1 ∧ read v = .valid t.2 := by
  obtain ⟨fs, hfs, hts⟩ := Checked.andThen_eq_valid_iff.mp h
  have hfs := Checked.ofExcept_eq_valid_iff.mp hfs
  constructor
  · obtain ⟨keys, hnodup, hkeys⟩ := hasTextKeys_withTextKeys hfs
    rwa [map_fst_of_tableEntries hkeys hts]
  · intro t ht
    obtain ⟨e, he, hkey, hread⟩ := (tableEntries_eq_valid_iff.mp hts).flip.exists_mem_of_mem ht
    obtain ⟨i, k, s, hi, hname, hs⟩ := exists_rowName? hfs he
    rw [hs] at hkey
    cases hkey
    exact ⟨i, k, e.2, hi, hname, hread⟩

end Check

end Qualify
