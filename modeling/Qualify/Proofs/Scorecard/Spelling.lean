import Qualify.Proofs.BaseScore.Spelling
import Qualify.Proofs.Check.Pair
import Qualify.Proofs.Scorecard.Written

/-!
# The spelling of what scorecards list

Tiers and competitors' domains are kept in lower case and without blanks around them.  So two pieces
of data whose tiers and domains are spelled alike, in one order, describe one scorecard or none
(`Scorecard.ofValue?_eq_of_differInSpelling`).  A table is made from texts before they are brought
into lower case: where two of its keys are read as one text, the later entry takes the place of the
earlier one, whatever stands between them, so that has to be excluded.
-/

namespace Qualify

namespace Check

variable {v w : Value} {es fs : Entries}

/-! ## Differences in spelling -/

/-- Two values are read as texts that are spelled alike, or neither of them is a text. -/
def ReadAlike (v w : Value) : Prop := (text v).Rel String.IsSpelledLike (text w)

theorem ReadAlike.refl (v : Value) : ReadAlike v v :=
  Checked.Rel.refl String.IsSpelledLike.refl _

theorem ReadAlike.texts {s t : String} (h : s.IsSpelledLike t) : ReadAlike (.text s) (.text t) :=
  .valid h

/-- No two keys of a table are read as one text. -/
def HasDistinctKeys (es : Entries) : Prop :=
  es.Pairwise fun e f => ∀ s, text e.1 = .valid s → text f.1 ≠ .valid s

/-- Texts that are distinct keys are read as distinct texts. -/
theorem hasDistinctKeys_of_texts (keys : List String) (hkeys : keys.Nodup)
    (h : es.map Prod.fst = keys.map Value.text) : HasDistinctKeys es := by
  have hpairwise : (es.map Prod.fst).Pairwise fun k l =>
      ∀ s, text k = .valid s → text l ≠ .valid s := by
    rw [h, List.pairwise_map]
    refine hkeys.imp fun hne s hs ht => hne ?_
    exact (Checked.valid.inj hs).trans (Checked.valid.inj ht).symm
  exact List.pairwise_map.mp hpairwise

/-- Two tables that differ in the spelling of their keys. -/
inductive SameTiers : Value → Value → Prop
  | intro {es fs : Entries}
      (h : List.Forall₂ (fun e f => ReadAlike e.1 f.1 ∧ e.2 = f.2) es fs)
      (hes : HasDistinctKeys es) (hfs : HasDistinctKeys fs) : SameTiers (.map es) (.map fs)

/-- Two lists that differ in the spelling of their items. -/
def SameDomains (v w : Value) : Prop :=
  ∃ xs ys, v.members? = some xs ∧ w.members? = some ys ∧ List.Forall₂ ReadAlike xs ys

/-- The keys of the tables of tiers. -/
def tierTableKeys : List String := ["companySize", "company_size", "industry"]

/-- Two enrichment sections that differ in the spelling of tiers. -/
inductive SameEnrichment : Value → Value → Prop
  | intro {es fs : Entries}
      (h : TableRel (fun k v w => v = w ∨ (∃ key ∈ tierTableKeys, k = .text key) ∧ SameTiers v w)
        es fs) : SameEnrichment (.map es) (.map fs)

/-- Under its key, a section that may differ in spelling does so. -/
inductive SameSection : Value → Value → Value → Prop
  | enrichment {v w : Value} (h : SameEnrichment v w) : SameSection (.text "enrichment") v w
  | domains {key : String} {v w : Value} (hkey : key ∈ ["competitorDomains", "competitor_domains"])
      (h : SameDomains v w) : SameSection (.text key) v w

/-! ## Tables -/

/-- Two entries with keys that are spelled alike and with one value. -/
def SameTier (e f : String × Binary64) : Prop := e.1.IsSpelledLike f.1 ∧ e.2 = f.2

theorem tableEntries_sameTier
    (h : List.Forall₂ (fun e f => ReadAlike e.1 f.1 ∧ e.2 = f.2) es fs) :
    (tableEntries number es).Rel (List.Forall₂ SameTier) (tableEntries number fs) := by
  induction h with
  | nil => exact .valid .nil
  | @cons e f es fs hef _ ih =>
      obtain ⟨k, v⟩ := e
      obtain ⟨k', w⟩ := f
      obtain ⟨hkey, rfl⟩ : ReadAlike k k' ∧ v = w := hef
      have hentry : Checked.Rel SameTier
          (Prod.mk <$> ((text k).under "[key]").under (keyText k) <*>
            (number v).under (keyText k))
          (Prod.mk <$> ((text k').under "[key]").under (keyText k') <*>
            (number v).under (keyText k')) := by
        have htext := (Checked.Rel.under hkey "[key]").under_under (keyText k) (keyText k')
        have hnumber := (Checked.Rel.refl (R := Eq) (fun _ => rfl) (number v)).under_under
          (keyText k) (keyText k')
        exact (htext.map fun s t hst x y hxy => ⟨hst, hxy⟩).seq hnumber
      exact (hentry.map fun e f hef as bs has => .cons hef has).seq ih

/-- Distinct keys are read as distinct texts, so the table has an entry for each of them. -/
theorem nodup_of_hasDistinctKeys (h : HasDistinctKeys es) {t : List (String × Binary64)}
    (ht : tableEntries number es = .valid t) : (t.map Prod.fst).Nodup := by
  rw [tableEntries_eq_valid_iff] at ht
  induction ht with
  | nil => exact List.nodup_nil
  | @cons e x es t hex hrest ih =>
      obtain ⟨hfirst, hes⟩ := List.pairwise_cons.mp h
      rw [List.map_cons, List.nodup_cons]
      refine ⟨fun hmem => ?_, ih hes⟩
      obtain ⟨y, hy, heq⟩ := List.mem_map.mp hmem
      obtain ⟨f, hf, hfy⟩ := hrest.flip.exists_mem_of_mem hy
      exact hfirst f hf x.1 hex.1 (heq ▸ hfy.1)

/-- Brought into lower case, entries with keys that are spelled alike are the same. -/
theorem normalized_eq {t u : PointTable} (h : List.Forall₂ SameTier t u) :
    t.normalized = u.normalized := by
  have hmap : t.map (fun e => (PointTable.tierKey e.1, e.2)) =
      u.map fun e => (PointTable.tierKey e.1, e.2) := by
    induction h with
    | nil => rfl
    | @cons e f t u hef _ ih =>
        have hkey : PointTable.tierKey e.1 = PointTable.tierKey f.1 := hef.1
        rw [List.map_cons, List.map_cons, ih, hkey, hef.2]
  rw [PointTable.normalized, PointTable.normalized, hmap]

/-- Tables of tiers that are spelled alike are one table. -/
theorem tierTable_rel (h : SameTiers v w) : (tierTable v).Rel Eq (tierTable w) := by
  obtain ⟨h, hes, hfs⟩ := h
  have hrel := tableEntries_sameTier h
  rw [tierTable, tierTable, pointTable, pointTable, tableOf, tableOf]
  generalize ht : tableEntries number _ = c at hrel ⊢
  generalize hu : tableEntries number _ = d at hrel ⊢
  cases hrel with
  | invalid ps qs => exact .invalid ps qs
  | @valid t u htu =>
      refine .valid ?_
      rw [PointTable.ofEntries_of_nodup (nodup_of_hasDistinctKeys hes ht),
        PointTable.ofEntries_of_nodup (nodup_of_hasDistinctKeys hfs hu)]
      exact normalized_eq htu

/-! ## Lists and sections -/

theorem domains_rel (h : SameDomains v w) : (domains v).Rel Eq (domains w) := by
  obtain ⟨xs, ys, hv, hw, hxy⟩ := h
  have hitems : (listOf text v).Rel (List.Forall₂ String.IsSpelledLike) (listOf text w) := by
    rw [listOf, listOf, items, items, hv, hw]
    exact eachFrom_rel hxy (fun _ _ h => h) 0
  refine hitems.map fun ds es hds => ?_
  have hlower : ds.map (fun d => d.trimBlanks.lowerCase) =
      es.map fun d => d.trimBlanks.lowerCase := by
    induction hds with
    | nil => rfl
    | cons hde _ ih => rw [List.map_cons, List.map_cons, ih, hde]
  rw [hlower]

theorem enrichment_rel (h : SameEnrichment v w) : (enrichment v).Rel Eq (enrichment w) := by
  obtain ⟨h⟩ := h
  have htable : ∀ keys, (optional keys [] tierTable _).Rel Eq (optional keys [] tierTable _) :=
    fun keys => optional_rel h rfl fun key _ v w hvw => by
      rcases hvw with rfl | ⟨-, hvw⟩
      · exact .refl (fun _ => rfl) _
      · exact tierTable_rel hvw
  exact ((htable _).map_same _).seq_same (htable _)

theorem SameEnrichment.isNull_eq (h : SameEnrichment v w) : v.isNull = w.isNull := by
  cases h
  rfl

/-- A section that may be null. -/
theorem nullable_rel {α : Type} {read : Value → Checked α} (h : (read v).Rel Eq (read w))
    (hnull : v.isNull = w.isNull) : (nullable read v).Rel Eq (nullable read w) := by
  rw [nullable, nullable, hnull]
  split
  · exact .valid rfl
  · exact h.map_same some

/-- Data that differ in the spelling of tiers and domains describe one scorecard. -/
theorem scorecard_rel (h : TableRel (fun k v w => v = w ∨ SameSection k v w) es fs) :
    (scorecard (.map es)).Rel Eq (scorecard (.map fs)) := by
  have hother : ∀ keys : List String,
      (∀ key ∈ keys, key ∉ ["enrichment", "competitorDomains", "competitor_domains"]) →
        ∀ key ∈ keys, ∀ v w, ¬SameSection (.text key) v w := by
    rintro keys hkeys key hkey v w (⟨-⟩ | ⟨hmem, -⟩)
    · exact hkeys _ hkey (by decide)
    · exact hkeys key hkey (List.mem_cons_of_mem _ hmem)
  have henrichment : (optional ["enrichment"] none (nullable enrichment) es).Rel Eq
      (optional ["enrichment"] none (nullable enrichment) fs) := by
    refine optional_rel h rfl fun key hkey v w hvw => ?_
    rcases hvw with rfl | hvw
    · exact .refl (fun _ => rfl) _
    · cases List.mem_singleton.mp hkey
      cases hvw with
      | enrichment hvw => exact nullable_rel (enrichment_rel hvw) hvw.isNull_eq
      | domains hmem => exact absurd hmem (by decide)
  have hdomains : (optional ["competitorDomains", "competitor_domains"] [] domains es).Rel Eq
      (optional ["competitorDomains", "competitor_domains"] [] domains fs) := by
    refine optional_rel h rfl fun key hkey v w hvw => ?_
    rcases hvw with rfl | hvw
    · exact .refl (fun _ => rfl) _
    · cases hvw with
      | enrichment => exact absurd hkey (by decide)
      | domains _ hvw => exact domains_rel hvw
  have hsame : ∀ {α : Type} (keys : List String) (default : α) (read : Value → Checked α),
      (∀ key ∈ keys, key ∉ ["enrichment", "competitorDomains", "competitor_domains"]) →
        (optional keys default read es).Rel Eq (optional keys default read fs) :=
    fun keys default read hkeys => optional_same h (hother keys hkeys)
  exact ((((((((hsame ["id"] _ _ (by decide)).map_same _).seq_same
    (hsame ["teamId", "team_id"] _ _ (by decide))).seq_same
    (hsame ["version"] _ _ (by decide))).seq_same
    (hsame ["weights"] _ _ (by decide))).seq_same
    (hsame ["negative"] _ _ (by decide))).seq_same henrichment).seq_same
    (hsame ["bands"] _ _ (by decide))).seq_same hdomains

end Check

namespace Scorecard

/-- Data that are the same but for the spelling of tiers and of competitors' domains. -/
inductive DifferInSpelling : Value → Value → Prop
  | refl (v : Value) : DifferInSpelling v v
  | maps {es fs : List (Value × Value)}
      (h : TableRel (fun k v w => v = w ∨ Check.SameSection k v w) es fs) :
      DifferInSpelling (.map es) (.map fs)

theorem ofValue?_eq_of_differInSpelling {v w : Value} (h : DifferInSpelling v w) :
    ofValue? v = ofValue? w := by
  cases h with
  | refl => rfl
  | maps h => exact (Check.scorecard_rel h).result?_eq

end Scorecard

end Qualify
