import Mathlib.Data.List.Dedup
import Qualify.Proofs.Rulebook
import Qualify.Source

/-!
# Which team a key leads to

The teams of a document are found by the texts of their keys, and of keys with one text the last one
counts.  So every key leads to what the last key with its text gives, and there are as many teams as
there are texts.  That no team is lost and each key leads to what it gives itself, is the same as that
no two keys have one text (`Source.serves_each_iff`).
-/

namespace Qualify

namespace Value

variable {es : List (Value × Value)}

/-- Of what is set under one key the last counts. -/
theorem lookup_setEntries (key : String) (es : List (Value × Value)) (ts : List (String × Value)) :
    lookup key (setEntries es ts) = (ts.reverse.lookup key).or (lookup key es) := by
  induction ts generalizing es with
  | nil => rfl
  | cons t ts ih =>
      rw [setEntries_cons, ih, List.reverse_cons, List.lookup_append, Option.or_assoc]
      congr 1
      by_cases ht : key = t.1
      · rw [ht, lookup_withEntry_self, List.lookup_cons, beq_self_eq_true]
        rfl
      · rw [lookup_withEntry_of_ne ht, List.lookup_cons, beq_eq_false_iff_ne.mpr ht]
        rfl

/-- The keys after some entries were set are those from before and those that were set. -/
theorem mem_keys_setEntries {keys keys' : List String} {ts : List (String × Value)}
    (hkeys : es.map Prod.fst = keys.map Value.text)
    (hkeys' : (setEntries es ts).map Prod.fst = keys'.map Value.text) {s : String} :
    s ∈ keys' ↔ s ∈ keys ∨ s ∈ ts.map Prod.fst := by
  induction ts generalizing es keys with
  | nil =>
      have hinj : Function.Injective Value.text := fun _ _ => Value.text.inj
      rw [List.map_injective_iff.mpr hinj (hkeys.symm.trans hkeys')]
      simp
  | cons t ts ih =>
      rw [ih (map_fst_withEntry hkeys) hkeys', List.map_cons, List.mem_cons]
      split <;> grind

end Value

namespace Check

variable {α : Type} {read : Value → Checked α} {es fs : Entries} {ts : List (String × Value)}

/-! ## Texts in the place of keys -/

theorem forall₂_keyTexts (h : keyTexts es = .ok ts) :
    List.Forall₂ (fun e t => e.1.toText = .ok t.1 ∧ e.2 = t.2) es ts := by
  refine (List.mapM_eq_ok_iff_forall₂.mp h).imp fun e t he => ?_
  obtain ⟨s, hs, he⟩ := Except.bind_eq_ok_iff.mp he
  obtain rfl := Except.pure_eq_ok_iff.mp he
  exact ⟨hs, rfl⟩

theorem map_toText_of_keyTexts (h : keyTexts es = .ok ts) :
    es.map (fun e => e.1.toText) = (ts.map Prod.fst).map .ok := by
  have hrows := forall₂_keyTexts h
  clear h
  induction hrows with
  | nil => rfl
  | cons he _ ih => rw [List.map_cons, List.map_cons, List.map_cons, he.1, ih]

theorem nodup_keyTexts_iff (h : keyTexts es = .ok ts) :
    (ts.map Prod.fst).Nodup ↔ (es.map fun e => e.1.toText).Nodup := by
  have hinj : Function.Injective (Except.ok : String → Except Failure String) :=
    fun _ _ => Except.ok.inj
  rw [map_toText_of_keyTexts h, List.nodup_map_iff hinj]

/-- No entry is overwritten exactly when no two keys have one text. -/
theorem length_withTextKeys_iff (h : withTextKeys es = .ok fs) :
    fs.length = es.length ↔ (es.map fun e => e.1.toText).Nodup := by
  rw [withTextKeys_eq_setEntries] at h
  obtain ⟨ts, hts, rfl⟩ := Except.map_eq_ok_iff.mp h
  obtain ⟨keys, hnodup, hkeys⟩ := Value.hasTextKeys_nil.setEntries ts
  have hperm : keys.Perm (ts.map Prod.fst).dedup := by
    rw [List.perm_ext_iff_of_nodup hnodup (List.nodup_dedup _)]
    intro s
    have hnone : ([] : Entries).map Prod.fst = ([] : List String).map Value.text := rfl
    rw [Value.mem_keys_setEntries hnone hkeys, List.mem_dedup]
    simp
  have hfs : (Value.setEntries [] ts).length = (ts.map Prod.fst).dedup.length := by
    rw [← hperm.length_eq, ← List.length_map (f := Prod.fst), hkeys, List.length_map]
  have hes : es.length = (ts.map Prod.fst).length := by
    rw [(forall₂_keyTexts hts).length_eq, List.length_map]
  rw [hfs, hes, (List.dedup_sublist _).length_eq, List.dedup_eq_self, nodup_keyTexts_iff hts]

/-- What is found under a text is what the last entry gives whose key has this text. -/
theorem exists_last_of_lookup (h : withTextKeys es = .ok fs) {s : String} {w : Value}
    (hw : Value.lookup s fs = some w) :
    ∃ before k after, es = before ++ (k, w) :: after ∧ k.toText = .ok s ∧
      ∀ e ∈ after, e.1.toText ≠ .ok s := by
  rw [withTextKeys_eq_setEntries] at h
  obtain ⟨ts, hts, rfl⟩ := Except.map_eq_ok_iff.mp h
  rw [Value.lookup_setEntries, Value.lookup, Option.or_none] at hw
  have hrows := forall₂_keyTexts hts
  clear h hts
  induction hrows with
  | nil => cases hw
  | @cons e t es ts he hrows ih =>
      rw [List.reverse_cons, List.lookup_append] at hw
      cases hlast : ts.reverse.lookup s with
      | some v =>
          rw [hlast, Option.some_or] at hw
          obtain ⟨before, k, after, rfl, hk, hafter⟩ := ih (hlast.trans hw)
          exact ⟨e :: before, k, after, rfl, hk, hafter⟩
      | none =>
          rw [hlast, Option.none_or] at hw
          obtain rfl := List.mem_singleton.mp (List.mem_of_lookup_eq_some hw)
          obtain ⟨k, v⟩ := e
          obtain ⟨hk, rfl⟩ := he
          refine ⟨[], k, es, rfl, hk, fun e he heq => ?_⟩
          obtain ⟨t, ht, htext, -⟩ := hrows.exists_mem_of_mem he
          have hs : s = t.1 := Except.ok.inj (heq.symm.trans htext)
          have hnone := List.lookup_eq_none_iff.mp hlast t (List.mem_reverse.mpr ht)
          exact absurd hnone (by simp [hs])

/-- Every key has something found under its text. -/
theorem exists_lookup_of_mem (h : withTextKeys es = .ok fs) {e : Value × Value} (he : e ∈ es) :
    ∃ s w, e.1.toText = .ok s ∧ Value.lookup s fs = some w ∧
      ((es.map fun e => e.1.toText).Nodup → w = e.2) := by
  rw [withTextKeys_eq_setEntries] at h
  obtain ⟨ts, hts, rfl⟩ := Except.map_eq_ok_iff.mp h
  obtain ⟨t, ht, hs, hv⟩ := (forall₂_keyTexts hts).exists_mem_of_mem he
  have hsome : (ts.reverse.lookup t.1).isSome := by
    rw [List.lookup_isSome_iff]
    exact ⟨t, List.mem_reverse.mpr ht, beq_self_eq_true _⟩
  obtain ⟨w, hw⟩ := Option.isSome_iff_exists.mp hsome
  refine ⟨t.1, w, hs, by rw [Value.lookup_setEntries, hw, Option.some_or], fun hnodup => ?_⟩
  have hown : Value.lookup t.1 (Value.setEntries [] ts) = some t.2 :=
    Value.lookup_setEntries_of_mem ((nodup_keyTexts_iff hts).mpr hnodup) ht
  rw [Value.lookup_setEntries, hw, Option.some_or] at hown
  exact (Option.some.inj hown).trans hv.symm

/-- A row is found where its entry is. -/
theorem lookup_tableEntries {rows : List (String × α)} (hfs : Value.HasTextKeys fs)
    (h : tableEntries read fs = .valid rows) {s : String} {w : Value}
    (hw : Value.lookup s fs = some w) : ∃ a, read w = .valid a ∧ rows.lookup s = some a := by
  have hrows := tableEntries_eq_valid_iff.mp h
  clear h
  induction hrows with
  | nil => cases hw
  | @cons e row es rows hrow _ ih =>
      obtain ⟨k, v⟩ := e
      obtain ⟨hes, t, rfl, -⟩ := hfs.of_cons
      obtain ⟨htext, hread⟩ := hrow
      obtain rfl : t = row.1 := by simpa [text, textOf?] using htext
      by_cases hs : Value.text row.1 = .text s
      · rw [hs, Value.lookup_cons_self] at hw
        obtain rfl := Option.some.inj hw
        exact ⟨row.2, hread, by rw [List.lookup_cons, Value.text.inj hs, beq_self_eq_true]⟩
      · rw [Value.lookup_cons_of_ne hs] at hw
        obtain ⟨a, ha, hlookup⟩ := ih hes hw
        refine ⟨a, ha, ?_⟩
        have hne : (s == row.1) = false := beq_eq_false_iff_ne.mpr fun h => hs (by rw [h])
        rw [List.lookup_cons, hne]
        exact hlookup

/-- What is accepted is the draft that was made of it. -/
theorem draft_of_rulebook {doc : Value} {b : Rulebook} (h : rulebook doc = .valid b) :
    draft doc = .valid b := by
  obtain ⟨c, hdraft, h⟩ := Checked.andThen_eq_valid_iff.mp h
  split at h
  · cases h
  · split at h
    · cases h
    · cases h
      exact hdraft

/-- The teams of a document that is accepted, as they are read from what it gives for them. -/
theorem exists_teams_of_rulebook {doc : Value} {b : Rulebook} (h : rulebook doc = .valid b) :
    ∃ es fs, doc.get? "teams" = some (.map es) ∧ withTextKeys es = .ok fs ∧
      tableEntries team fs = .valid b.teams := by
  obtain ⟨-, v, hget, hteams⟩ := draft_eq_valid (draft_of_rulebook h)
  cases v with
  | map es =>
      obtain ⟨fs, hfs, hrows⟩ := Checked.andThen_eq_valid_iff.mp hteams
      exact ⟨es, fs, hget, Checked.ofExcept_eq_valid_iff.mp hfs, hrows⟩
  | _ => cases hteams

end Check

/-! ## What is served -/

/-- Every source of the rulebook answers a key with the team that is read from a value. -/
def Rulebook.Serves (b : Rulebook) (key v : Value) : Prop :=
  ∃ t, Check.team v = .valid t ∧ ∀ s : Source, s.served = some b → s.team key = .ok t

namespace Source

variable {doc : Value} {b : Rulebook}

theorem team_of_lookup {s : Source} (hs : s.served = some b) {key : Value} {name : String}
    (hkey : key.toText = .ok name) {t : Team} (ht : b.teams.lookup name = some t) :
    s.team key = .ok t := by
  have hteam : b.team? name = some t := ht
  simp only [team, rulebook, hs, hkey, hteam, Except.ok_bind]
  rfl

/-- In every document that is accepted, each key leads to the team that the last key with its text
gives.  No team is lost and each key leads to the team that it gives itself exactly when no two keys
have one text. -/
theorem serves_each_iff (h : Check.rulebook doc = .valid b) :
    ∃ es, doc.get? "teams" = some (.map es) ∧
      (∀ e ∈ es, ∃ before k v after, es = before ++ (k, v) :: after ∧ k.toText = e.1.toText ∧
        (∀ l ∈ after, l.1.toText ≠ e.1.toText) ∧ b.Serves e.1 v) ∧
      ((b.teams.length = es.length ∧ ∀ e ∈ es, b.Serves e.1 e.2) ↔
        (es.map fun e => e.1.toText).Nodup) := by
  obtain ⟨es, fs, hget, hfs, hteams⟩ := Check.exists_teams_of_rulebook h
  have hserves : ∀ {key v name}, Value.toText key = .ok name → Value.lookup name fs = some v →
      b.Serves key v := by
    intro key v name hkey hv
    obtain ⟨t, ht, hlookup⟩ :=
      Check.lookup_tableEntries (Check.hasTextKeys_withTextKeys hfs) hteams hv
    exact ⟨t, ht, fun s hs => team_of_lookup hs hkey hlookup⟩
  have hlength : b.teams.length = fs.length :=
    (Check.tableEntries_eq_valid_iff.mp hteams).length_eq.symm
  refine ⟨es, hget, fun e he => ?_, ?_⟩
  · obtain ⟨name, v, hname, hv, -⟩ := Check.exists_lookup_of_mem hfs he
    obtain ⟨before, k, after, hes, hk, hafter⟩ := Check.exists_last_of_lookup hfs hv
    exact ⟨before, k, v, after, hes, hk.trans hname.symm, fun l hl => hname ▸ hafter l hl,
      hserves hname hv⟩
  · rw [hlength, Check.length_withTextKeys_iff hfs, and_iff_left_iff_imp]
    intro hnodup e he
    obtain ⟨name, v, hname, hv, hown⟩ := Check.exists_lookup_of_mem hfs he
    exact hown hnodup ▸ hserves hname hv

/-! Documents whose teams differ in nothing but the name of their scorecard. -/

namespace NamedTeams

def teamData (id : String) : Value := .map [(.text "config", .map [(.text "id", .text id)])]

def documentOf (es : List (Value × Value)) : Value :=
  .map [(.text "version", .text "1.0"), (.text "teams", .map es)]

theorem scorecard_teamData (id : String) {t : Team} (h : Check.team (teamData id) = .valid t) :
    t.scorecard.id = some id := by
  cases h
  rfl

/-- Keys of three kinds. -/
def threeKinds : List (Value × Value) :=
  [(.int 1, teamData "a"), (.null, teamData "b"), (.text "1.0", teamData "c")]

/-- A number and its text. -/
def numberAndText : List (Value × Value) :=
  [(.int 1, teamData "first"), (.text "1", teamData "second")]

end NamedTeams

open NamedTeams in
theorem serves_each_threeKinds :
    ∃ b, Check.rulebook (documentOf threeKinds) = .valid b ∧ b.teams.length = 3 ∧
      ∀ e ∈ threeKinds, b.Serves e.1 e.2 := by
  have hvalid : (Check.rulebook (documentOf threeKinds)).result?.isSome := by decide +kernel
  obtain ⟨b, hresult⟩ := Option.isSome_iff_exists.mp hvalid
  have hb := Checked.result?_eq_some_iff.mp hresult
  obtain ⟨es, hget, -, hiff⟩ := serves_each_iff hb
  obtain rfl : threeKinds = es := by
    have hes : (documentOf threeKinds).get? "teams" = some (.map threeKinds) := rfl
    rw [hes] at hget
    exact Value.map.inj (Option.some.inj hget)
  exact ⟨b, hb, hiff.mpr (by decide +kernel)⟩

open NamedTeams in
/-- A number and its text are keys of one team: the first of the two teams is lost, and its key leads
to the second. -/
theorem not_serves_numberAndText :
    ∃ b t, Check.rulebook (documentOf numberAndText) = .valid b ∧ b.teams = [("1", t)] ∧
      t.scorecard.id = some "second" ∧ ¬ b.Serves (.int 1) (teamData "first") := by
  have hnames : (Check.rulebook (documentOf numberAndText)).result?.map
      (fun b => b.teams.map fun t => (t.1, t.2.scorecard.id)) = some [("1", some "second")] := by
    decide +kernel
  obtain ⟨b, hresult, hb⟩ := Option.map_eq_some_iff.mp hnames
  obtain ⟨⟨name, t⟩, hteams, hname⟩ := List.map_eq_singleton_iff.mp hb
  obtain ⟨rfl, hid⟩ := Prod.mk.inj hname
  have hkey : (Value.int 1).toText = .ok "1" := by decide +kernel
  refine ⟨b, t, Checked.result?_eq_some_iff.mp hresult, hteams, hid, ?_⟩
  rintro ⟨u, hu, hserves⟩
  have hserved := team_of_lookup (s := { path := .ofText "r", served := some b }) rfl hkey
    (t := t) (by rw [hteams, List.lookup_cons_self])
  rw [hserves _ rfl] at hserved
  obtain rfl := Except.ok.inj hserved
  have hfirst := hid.symm.trans (scorecard_teamData "first" hu)
  exact absurd hfirst (by decide)

end Source

end Qualify
