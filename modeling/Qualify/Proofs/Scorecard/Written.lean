import Mathlib.Data.List.Nodup
import Qualify.Proofs.Scorecard
import Qualify.Proofs.Text.Case
import Qualify.Rule.Writer

/-!
# Scorecards read back from their data

Reading brings a scorecard into a normal form: tiers and domains are spelled as they are looked up,
and no tier is there twice (`Scorecard.IsNormal`).  A scorecard in that form is read back, as it was,
from the data that it is written as, whether what it lacks is written as null or left out
(`Scorecard.IsNormal.scorecard_toData`).
-/

namespace Qualify

/-! ## Tables -/

namespace PointTable

variable {t : PointTable} {tier : String} {points : Binary64}

/-- The tiers of a table are spelled as they are looked up, each of them once. -/
structure IsNormal (t : PointTable) : Prop where
  nodup : (t.map Prod.fst).Nodup
  tierKey_eq : ∀ e ∈ t, tierKey e.1 = e.1

theorem tierKey_tierKey (s : String) : tierKey (tierKey s) = tierKey s :=
  String.lowerCase_trimBlanks_idem s

theorem insert_of_notMem (h : tier ∉ t.map Prod.fst) :
    t.insert tier points = t ++ [(tier, points)] := by
  have hany : t.any (·.1 == tier) = false := by
    rw [List.any_eq_false]
    intro e he
    rw [beq_iff_eq]
    rintro rfl
    exact h (List.mem_map_of_mem he)
  rw [insert, hany]
  exact if_neg Bool.false_ne_true

theorem nodup_keys_insert (h : (t.map Prod.fst).Nodup) :
    ((t.insert tier points).map Prod.fst).Nodup := by
  by_cases hmem : tier ∈ t.map Prod.fst
  · have hany : t.any (·.1 == tier) = true := by
      obtain ⟨e, he, rfl⟩ := List.mem_map.mp hmem
      exact List.any_eq_true.mpr ⟨e, he, beq_self_eq_true e.1⟩
    -- the tier keeps its place, so the keys are those that were there
    have hkeys : (t.insert tier points).map Prod.fst = t.map Prod.fst := by
      rw [insert, if_pos hany, List.map_map]
      refine List.map_congr_left fun e _ => ?_
      by_cases he : e.1 = tier
      · simp [he]
      · simp [he]
    rw [hkeys]
    exact h
  · rw [insert_of_notMem hmem, List.map_append, List.map_singleton, ← List.concat_eq_append]
    exact h.concat hmem

theorem nodup_keys_ofEntries (es : List (String × Binary64)) :
    ((ofEntries es).map Prod.fst).Nodup := by
  suffices hfold : ∀ t : PointTable, (t.map Prod.fst).Nodup →
      ((es.foldl (fun t e => t.insert e.1 e.2) t).map Prod.fst).Nodup from
    hfold [] List.nodup_nil
  induction es with
  | nil => exact fun t h => h
  | cons e es ih => exact fun t h => ih _ (nodup_keys_insert h)

/-- Entries without a repeated tier are a table as they are. -/
theorem ofEntries_of_nodup (h : (t.map Prod.fst).Nodup) : ofEntries t = t := by
  suffices hfold : ∀ before : PointTable, ((before ++ t).map Prod.fst).Nodup →
      t.foldl (fun t e => t.insert e.1 e.2) before = before ++ t from
    hfold [] h
  clear h
  induction t with
  | nil => exact fun before _ => (List.append_nil before).symm
  | cons e t ih =>
      intro before h
      rw [List.append_cons] at h
      have hnew : e.1 ∉ before.map Prod.fst := by
        rw [List.map_append, List.map_append, List.map_singleton] at h
        have hsplit := (List.nodup_append.mp h.of_append_left).2.2
        intro hmem
        exact hsplit _ hmem _ (List.mem_singleton_self _) rfl
      rw [List.foldl_cons, insert_of_notMem hnew, ih _ h, ← List.append_cons]

theorem isNormal_nil : IsNormal [] := ⟨List.nodup_nil, List.forall_mem_nil _⟩

theorem isNormal_normalized (t : PointTable) : t.normalized.IsNormal where
  nodup := nodup_keys_ofEntries _
  tierKey_eq := by
    intro e he
    obtain ⟨f, -, hf⟩ := exists_of_mem_normalized (List.mem_map_of_mem he)
    rw [← hf, tierKey_tierKey]

theorem IsNormal.normalized_eq (h : t.IsNormal) : t.normalized = t := by
  have hkeys : t.map (fun e => (tierKey e.1, e.2)) = t := by
    calc t.map (fun e => (tierKey e.1, e.2)) = t.map id :=
          List.map_congr_left fun e he => by rw [h.tierKey_eq e he, id]
      _ = t := List.map_id t
  rw [normalized, hkeys, ofEntries_of_nodup h.nodup]

end PointTable

namespace Check

variable {v : Value} {t : PointTable}

theorem tableOf_toData (t : PointTable) : tableOf number t.toData = .valid t := by
  rw [PointTable.toData, Value.ofTexts, tableOf, tableEntries_eq_valid_iff, List.map_map,
    List.forall₂_map_left_iff]
  exact List.forall₂_same.mpr fun e _ => ⟨rfl, rfl⟩

theorem tierTable_toData (h : t.IsNormal) : tierTable t.toData = .valid t := by
  rw [tierTable, pointTable, tableOf_toData, Checked.map_valid, Checked.map_valid,
    PointTable.ofEntries_of_nodup h.nodup, h.normalized_eq]

/-! ## Sections -/

variable {α : Type} {keys : List String} {key : String} {read : Value → Checked α} {es : Entries}

theorem optional_of_find? (key : String) {default a : α} {w : Value}
    (hfind : find? es keys = some (key, w)) (hread : read w = .valid a) : optional keys default read es = .valid a :=
  optional_eq_valid_iff.mpr (.inr ⟨key, w, hfind, hread⟩)

theorem nonnegative_float {x : Binary64} (h : Binary64.zero.le x) :
    nonnegative (.float x) = .valid ⟨x, h⟩ :=
  dif_pos h

theorem weights_toData (w : Weights) : weights w.toData = .valid w := by
  obtain ⟨hjobRole, hurgency, hengagement⟩ := w.nonnegative
  simp only [weights, Weights.toData, Value.ofTexts, record, Checked.andThen_valid]
  rw [optional_of_find? "jobRole" rfl (nonnegative_float hjobRole),
    optional_of_find? "urgency" rfl (nonnegative_float hurgency),
    optional_of_find? "engagement" rfl (nonnegative_float hengagement)]
  rfl

theorem penalties_toData (p : Penalties) : penalties p.toData = .valid p := rfl

theorem enrichment_toData {e : Enrichment} (hsize : e.companySize.IsNormal)
    (hindustry : e.industry.IsNormal) : enrichment e.toData = .valid e := by
  simp only [enrichment, Enrichment.toData, Value.ofTexts, record, Checked.andThen_valid]
  rw [optional_of_find? "companySize" rfl (tierTable_toData hsize),
    optional_of_find? "industry" rfl (tierTable_toData hindustry)]
  rfl

/-- Thresholds are in the order that reading asks for. -/
theorem thresholds_toData (t : Thresholds) : thresholds t.toData = .valid t := by
  have hread : thresholds t.toData = ascending t.high t.medium t.low := rfl
  rw [hread, ascending, dif_pos t.ascending]

/-- A domain is spelled as it is looked up, and is not blank. -/
def IsNormalDomain (d : String) : Prop := d.trimBlanks.lowerCase = d ∧ d.isEmpty = false

theorem isNormalDomain_of_mem {ds : List String} (h : domains v = .valid ds) {d : String}
    (hd : d ∈ ds) : IsNormalDomain d := by
  obtain ⟨given, -, rfl⟩ := Checked.fmap_eq_valid_iff.mp h
  rw [List.mem_filter, Bool.not_eq_true'] at hd
  obtain ⟨hmem, hempty⟩ := hd
  obtain ⟨s, -, rfl⟩ := List.mem_map.mp hmem
  exact ⟨String.lowerCase_trimBlanks_idem s, hempty⟩

theorem domains_texts {ds : List String} (h : ∀ d ∈ ds, IsNormalDomain d) :
    domains (.list (ds.map .text)) = .valid ds := by
  have hread : listOf text (.list (ds.map .text)) = .valid ds :=
    listOf_eq_valid_iff.mpr ⟨_, rfl, List.forall₂_map_left_iff.mpr
      (List.forall₂_same.mpr fun d _ => rfl)⟩
  have hspelling : ds.map (fun d => d.trimBlanks.lowerCase) = ds := by
    calc ds.map (fun d => d.trimBlanks.lowerCase) = ds.map id :=
          List.map_congr_left fun d hd => (h d hd).1
      _ = ds := List.map_id ds
  have hfilter : ds.filter (fun d => !d.isEmpty) = ds :=
    List.filter_eq_self.mpr fun d hd => by rw [(h d hd).2, Bool.not_false]
  rw [domains, hread, Checked.map_valid, hspelling, hfilter]

/-! ## What is left out -/

theorem find?_eq_none (h : ∀ k ∈ keys, Value.lookup k es = none) : find? es keys = none := by
  induction keys with
  | nil => rfl
  | cons k keys ih =>
      have ⟨hk, hkeys⟩ := List.forall_mem_cons.mp h
      rw [find?, hk, ih hkeys]

/-- A field is read back from what it is written as, which is nothing if it is missing. -/
theorem optional_nullable_of_lookup {data : α → Value} {o : Option α}
    (hlookup : Value.lookup key es = o.map data) (hothers : ∀ k ∈ keys, Value.lookup k es = none)
    (hread : ∀ a, o = some a → (data a).isNull = false ∧ read (data a) = .valid a) :
    optional (key :: keys) none (nullable read) es = .valid o := by
  cases o with
  | none =>
      have hnone : find? es (key :: keys) = none :=
        find?_eq_none (List.forall_mem_cons.mpr ⟨hlookup, hothers⟩)
      exact optional_eq_valid_iff.mpr (.inl ⟨hnone, rfl⟩)
  | some a =>
      have hfind : find? es (key :: keys) = some (key, data a) := by
        rw [find?, hlookup, Option.map_some]
      exact optional_of_find? key hfind (nullable_eq_valid_some_iff.mpr (hread a rfl))

end Check

namespace Value

/-- Where keys do not repeat, leaving out what is null changes no other entry. -/
theorem lookup_withoutNulls {key : String} {es : List (String × Value)}
    (h : (es.map Prod.fst).Nodup) :
    lookup key ((es.map fun e => (text e.1, e.2)).filter fun e => !e.2.isNull) =
      (es.lookup key).filter fun v => !v.isNull := by
  induction es with
  | nil => rfl
  | cons e es ih =>
      obtain ⟨k, v⟩ := e
      have ⟨hk, hes⟩ := List.nodup_cons.mp h
      rw [List.map_cons, List.lookup_cons]
      by_cases hkey : key = k
      · subst hkey
        have hrest : es.lookup key = none := by
          rw [List.lookup_eq_none_iff]
          intro e he
          rw [bne_iff_ne]
          rintro rfl
          exact hk (List.mem_map.mpr ⟨e, he, rfl⟩)
        cases hv : v.isNull with
        | true => simp [hv, ih hes, hrest, Option.filter_some]
        | false => simp [hv, lookup, Option.filter_some]
      · have hbeq : (key == k) = false := beq_eq_false_iff_ne.mpr hkey
        cases hv : v.isNull with
        | true => simp [hv, hbeq, ih hes]
        | false => simp [hv, hbeq, lookup, Ne.symm hkey, ih hes]

end Value

namespace Scorecard

/-- The entries that a scorecard is written as. -/
def dataEntries (c : Scorecard) : List (String × Value) :=
  [("id", .ofText? c.id), ("teamId", .ofText? c.teamId), ("version", .int c.version),
    ("weights", sectionData Weights.toData c.weights),
    ("negative", sectionData Penalties.toData c.penalties),
    ("enrichment", sectionData Enrichment.toData c.enrichment),
    ("bands", sectionData Thresholds.toData c.bands),
    ("competitorDomains", .list (c.competitorDomains.map .text))]

/-- The tables and the domains of a scorecard are spelled as they are looked up. -/
structure IsNormal (c : Scorecard) : Prop where
  enrichment : ∀ e, c.enrichment = some e → e.companySize.IsNormal ∧ e.industry.IsNormal
  domains : ∀ d ∈ c.competitorDomains, Check.IsNormalDomain d

variable {c : Scorecard}

theorem ofText?_eq_sectionData (o : Option String) : Value.ofText? o = sectionData .text o := by
  cases o with
  | none => rfl
  | some s => rfl

/-- The entries that are left when nulls are left out. -/
def filledEntries (c : Scorecard) : List (Value × Value) :=
  (c.dataEntries.map fun e => (.text e.1, e.2)).filter fun e => !e.2.isNull

theorem lookup_filledEntries (key : String) :
    Value.lookup key c.filledEntries = (c.dataEntries.lookup key).filter fun v => !v.isNull := by
  apply Value.lookup_withoutNulls
  have hkeys : c.dataEntries.map Prod.fst = ["id", "teamId", "version", "weights", "negative",
      "enrichment", "bands", "competitorDomains"] := rfl
  rw [hkeys]
  decide

theorem lookup_filledEntries_section {α : Type} {data : α → Value} {o : Option α} {key : String}
    (hnull : ∀ a, (data a).isNull = false)
    (hentry : c.dataEntries.lookup key = some (sectionData data o)) :
    Value.lookup key c.filledEntries = o.map data := by
  rw [lookup_filledEntries, hentry]
  cases o with
  | none => rfl
  | some a => simp [sectionData, hnull, Option.filter_some]

/-- What a scorecard in normal form is written as, what it lacks left out, is read as the same
scorecard. -/
theorem IsNormal.scorecard_toData (h : c.IsNormal) :
    Check.scorecard c.toData.withoutNulls = .valid c := by
  have hdata : c.toData.withoutNulls = .map c.filledEntries := rfl
  have htext : ∀ s, (Value.text s).isNull = false ∧ Check.identifier (.text s) = .valid s :=
    fun s => ⟨rfl, rfl⟩
  have hid : Value.lookup "id" c.filledEntries = c.id.map .text :=
    lookup_filledEntries_section (fun s => rfl) (ofText?_eq_sectionData c.id ▸ rfl)
  have hteamId : Value.lookup "teamId" c.filledEntries = c.teamId.map .text :=
    lookup_filledEntries_section (fun s => rfl) (ofText?_eq_sectionData c.teamId ▸ rfl)
  have hversion : Value.lookup "version" c.filledEntries = some (.int c.version) :=
    lookup_filledEntries "version"
  have hweights : Value.lookup "weights" c.filledEntries = c.weights.map Weights.toData :=
    lookup_filledEntries_section (fun w => rfl) rfl
  have hpenalties : Value.lookup "negative" c.filledEntries = c.penalties.map Penalties.toData :=
    lookup_filledEntries_section (fun p => rfl) rfl
  have henrichment :
      Value.lookup "enrichment" c.filledEntries = c.enrichment.map Enrichment.toData :=
    lookup_filledEntries_section (fun e => rfl) rfl
  have hbands : Value.lookup "bands" c.filledEntries = c.bands.map Thresholds.toData :=
    lookup_filledEntries_section (fun t => rfl) rfl
  have hdomains : Check.find? c.filledEntries ["competitorDomains", "competitor_domains"] =
      some ("competitorDomains", .list (c.competitorDomains.map .text)) := by
    rw [Check.find?, lookup_filledEntries]
    rfl
  rw [hdata, Check.scorecard_map_eq_valid_iff]
  refine ⟨?_, ?_, ?_, ?_, ?_, ?_, ?_, ?_⟩
  · exact Check.optional_nullable_of_lookup hid (List.forall_mem_nil _) fun s _ => htext s
  · exact Check.optional_nullable_of_lookup hteamId
      (List.forall_mem_singleton.mpr (lookup_filledEntries "team_id")) fun s _ => htext s
  · exact Check.optional_of_find? _ (Check.find?_singleton.mpr ⟨rfl, hversion⟩) rfl
  · exact Check.optional_nullable_of_lookup hweights (List.forall_mem_nil _)
      fun w _ => ⟨rfl, Check.weights_toData w⟩
  · exact Check.optional_nullable_of_lookup hpenalties (List.forall_mem_nil _)
      fun p _ => ⟨rfl, Check.penalties_toData p⟩
  · exact Check.optional_nullable_of_lookup henrichment (List.forall_mem_nil _)
      fun e he => ⟨rfl, Check.enrichment_toData (h.enrichment e he).1 (h.enrichment e he).2⟩
  · exact Check.optional_nullable_of_lookup hbands (List.forall_mem_nil _)
      fun t _ => ⟨rfl, Check.thresholds_toData t⟩
  · exact Check.optional_of_find? _ hdomains (Check.domains_texts h.domains)

/-- Reading data brings a scorecard into normal form. -/
theorem isNormal_of_read {es : List (Value × Value)} (h : Check.scorecard (.map es) = .valid c) :
    c.IsNormal := by
  obtain ⟨-, -, -, -, -, -, -, hdomains⟩ := Check.scorecard_map_eq_valid_iff.mp h
  constructor
  · intro e he
    exact Check.holds_of_scorecard PointTable.isNormal_nil PointTable.isNormal_normalized h he
  · intro d hd
    rcases Check.optional_eq_valid_iff.mp hdomains with ⟨-, hnone⟩ | ⟨_, v, -, hread⟩
    · rw [hnone] at hd
      cases hd
    · exact Check.isNormalDomain_of_mem hread hd

end Scorecard

end Qualify
