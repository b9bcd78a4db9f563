import Qualify.Proofs.Check
import Qualify.Proofs.Except
import Qualify.Scorecard.Reader

/-!
# Which tiers a scorecard has

The tables of a scorecard that is read from a mapping have their tiers as these are looked up.  So
every tier of such a table can be named by a lead, with a text that is not empty
(`Scorecard.isNameable_of_ofValue?`).
-/

namespace Qualify

namespace PointTable

variable {t : PointTable} {key : String} {x : Binary64}

theorem mem_insert {e : String × Binary64} {tier : String} (h : e ∈ t.insert tier x) :
    e = (tier, x) ∨ e ∈ t := by
  unfold insert at h
  split at h
  · obtain ⟨f, hf, rfl⟩ := List.mem_map.mp h
    split
    · exact .inl rfl
    · exact .inr hf
  · rw [List.mem_append, List.mem_singleton] at h
    exact h.symm

/-- A table has no points but those that its entries were given with. -/
theorem mem_of_mem_ofEntries {es : List (String × Binary64)} {e : String × Binary64}
    (h : e ∈ ofEntries es) : e ∈ es := by
  unfold ofEntries at h
  -- the table so far is carried along, and has no entries at first
  suffices hfold : ∀ t : PointTable,
      e ∈ es.foldl (fun t e => t.insert e.1 e.2) t → e ∈ t ∨ e ∈ es from
    (hfold [] h).resolve_left List.not_mem_nil
  clear h
  induction es with
  | nil => exact fun t h => .inl h
  | cons f es ih =>
      intro t h
      rcases ih _ h with h | h
      · rcases mem_insert h with rfl | h
        · exact .inr List.mem_cons_self
        · exact .inl h
      · exact .inr (List.mem_cons_of_mem _ h)

/-- A table has no tier but those that its entries were given under. -/
theorem mem_keys_ofEntries {es : List (String × Binary64)} {k : String}
    (h : k ∈ (ofEntries es).map Prod.fst) : k ∈ es.map Prod.fst := by
  obtain ⟨e, he, rfl⟩ := List.mem_map.mp h
  exact List.mem_map_of_mem (mem_of_mem_ofEntries he)

theorem mem_keys_of_get? (h : t.get? key = some x) : key ∈ t.map Prod.fst :=
  List.mem_map_of_mem (List.mem_of_lookup_eq_some h)

/-- Every tier of a table can be named. -/
def IsNameable (t : PointTable) : Prop :=
  ∀ key x, t.get? key = some x → ∃ s, s ≠ "" ∧ tierKey s = key

theorem isNameable_nil : IsNameable [] := nofun

theorem exists_of_mem_normalized {k : String} (h : k ∈ t.normalized.map Prod.fst) :
    ∃ e ∈ t, tierKey e.1 = k := by
  have hkey := mem_keys_ofEntries h
  rw [List.map_map] at hkey
  exact List.mem_map.mp hkey

/-- The tiers of a table are named by the texts that they were given under, or by a blank if that
was empty. -/
theorem isNameable_normalized (t : PointTable) : t.normalized.IsNameable := by
  intro key x h
  obtain ⟨e, -, rfl⟩ := exists_of_mem_normalized (mem_keys_of_get? h)
  by_cases he : e.1 = ""
  · exact ⟨" ", by decide, by rw [he]; rfl⟩
  · exact ⟨e.1, he, rfl⟩

end PointTable

namespace Check

variable {v : Value}

/-! ## Tables that are read

What holds of the empty table and of every normalized one holds of every table of tiers that is
read. -/

section Tables

variable {P : PointTable → Prop} (hnil : P []) (hnormalized : ∀ t : PointTable, P t.normalized)

include hnormalized in
theorem holds_of_tierTable {t : PointTable} (h : tierTable v = .valid t) : P t := by
  obtain ⟨t', -, rfl⟩ := Checked.fmap_eq_valid_iff.mp h
  exact hnormalized t'

include hnil hnormalized

theorem holds_of_optional {keys : List String} {es : Entries} {t : PointTable}
    (h : optional keys [] tierTable es = .valid t) : P t := by
  rcases optional_eq_valid_iff.mp h with ⟨-, rfl⟩ | ⟨_, _, -, h⟩
  · exact hnil
  · exact holds_of_tierTable hnormalized h

theorem holds_of_enrichment {e : Enrichment} (h : enrichment v = .valid e) :
    P e.companySize ∧ P e.industry := by
  simp only [enrichment, Checked.andThen_eq_valid_iff, Checked.seq_eq_valid_iff,
    Checked.fmap_eq_valid_iff] at h
  obtain ⟨es, -, _, ⟨size, hsize, rfl⟩, industry, hindustry, rfl⟩ := h
  exact ⟨holds_of_optional hnil hnormalized hsize, holds_of_optional hnil hnormalized hindustry⟩

end Tables

theorem nullable_eq_valid_some_iff {α : Type} {read : Value → Checked α} {a : α} :
    nullable read v = .valid (some a) ↔ v.isNull = false ∧ read v = .valid a := by
  unfold nullable
  cases v.isNull with
  | true => simp
  | false =>
      cases read v with
      | valid b => simp
      | invalid ps => simp

/-- A mapping is a scorecard when each of the eight fields is well. -/
theorem scorecard_map_eq_valid_iff {es : Entries} {c : Scorecard} :
    scorecard (.map es) = .valid c ↔
      optional ["id"] none (nullable identifier) es = .valid c.id ∧
      optional ["teamId", "team_id"] none (nullable identifier) es = .valid c.teamId ∧
      optional ["version"] 1 integer es = .valid c.version ∧
      optional ["weights"] none (nullable weights) es = .valid c.weights ∧
      optional ["negative"] none (nullable penalties) es = .valid c.penalties ∧
      optional ["enrichment"] none (nullable enrichment) es = .valid c.enrichment ∧
      optional ["bands"] none (nullable thresholds) es = .valid c.bands ∧
      optional ["competitorDomains", "competitor_domains"] [] domains es =
        .valid c.competitorDomains := by
  simp only [scorecard, record, Checked.andThen_valid, Checked.seq_eq_valid_iff,
    Checked.fmap_eq_valid_iff]
  constructor
  · rintro ⟨_, ⟨_, ⟨_, ⟨_, ⟨_, ⟨_, ⟨_, ⟨id, hid, rfl⟩, teamId, hteamId, rfl⟩, version, hversion, rfl⟩,
      weights, hweights, rfl⟩, penalties, hpenalties, rfl⟩, enrichment, henrichment, rfl⟩, bands,
      hbands, rfl⟩, domains, hdomains, rfl⟩
    exact ⟨hid, hteamId, hversion, hweights, hpenalties, henrichment, hbands, hdomains⟩
  · rintro ⟨hid, hteamId, hversion, hweights, hpenalties, henrichment, hbands, hdomains⟩
    exact ⟨_, ⟨_, ⟨_, ⟨_, ⟨_, ⟨_, ⟨_, ⟨_, hid, rfl⟩, _, hteamId, rfl⟩, _, hversion, rfl⟩, _, hweights,
      rfl⟩, _, hpenalties, rfl⟩, _, henrichment, rfl⟩, _, hbands, rfl⟩, _, hdomains, rfl⟩

theorem holds_of_scorecard {P : PointTable → Prop} (hnil : P [])
    (hnormalized : ∀ t : PointTable, P t.normalized) {es : Entries} {c : Scorecard}
    (h : scorecard (.map es) = .valid c) {e : Enrichment} (he : c.enrichment = some e) :
    P e.companySize ∧ P e.industry := by
  obtain ⟨-, -, -, -, -, hread, -⟩ := scorecard_map_eq_valid_iff.mp h
  rw [he] at hread
  rcases optional_eq_valid_iff.mp hread with ⟨-, hnone⟩ | ⟨_, v, -, hread⟩
  · cases hnone
  · exact holds_of_enrichment hnil hnormalized (nullable_eq_valid_some_iff.mp hread).2

end Check

namespace Scorecard

variable {c : Scorecard} {es : List (Value × Value)}

/-- Every tier of a scorecard that is read from a mapping can be named. -/
theorem isNameable_of_ofValue? (h : ofValue? (.map es) = some c) {e : Enrichment}
    (he : c.enrichment = some e) : e.companySize.IsNameable ∧ e.industry.IsNameable :=
  Check.holds_of_scorecard PointTable.isNameable_nil PointTable.isNameable_normalized
    (Checked.result?_eq_some_iff.mp h) he

end Scorecard

end Qualify
