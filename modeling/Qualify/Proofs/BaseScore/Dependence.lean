import Mathlib.Tactic.FinCases
import Qualify.Proofs.BaseScore.Spelling
import Qualify.Proofs.Value.Entries

/-!
# What a base score depends on

Every signal sees a lead through its email, its domain and the values at its own paths, and the
paths of all signals together are few (`Vocabulary.signalPaths`).  So two leads that agree on these
have the same base score, or fail to have one alike (`BaseScore.ofValue_congr`).  All those paths
begin at a handful of keys: what else a lead holds, at the top, among its fields or in the block of
enrichment inside them, does not matter.
-/

namespace Qualify

namespace Vocabulary

/-- The paths at which some signal looks. -/
def signalPaths : List String :=
  titlePaths ++ urgencyPaths ++ engagementPaths ++ companySizePaths ++ industryPaths ++
    [competitorFlag, freeMailboxFlag]

/-- The keys of a lead's further entries at which some signal looks. -/
def topKeys : List String := ["title", "urgency", "engagement"]

/-- The keys of its fields at which some signal looks for a value. -/
def fieldKeys : List String :=
  ["title", "job_title", "jobTitle", "urgency", "timeline", "engagement", "interest",
   "company_size", "companySize", "industry"]

/-- The keys of the block of enrichment among its fields at which some signal looks. -/
def enrichmentKeys : List String :=
  ["companySize", "company_size", "industry", "isCompetitor", "isFreeMailbox"]

/-- The keys along which a path leads. -/
def keysOf (path : String) : List String := (Value.segments path).map String.ofList

theorem isKeyPath_of_signalPaths : ∀ p ∈ signalPaths, p ≠ "" ∧ Value.IsKeyPath p := by
  decide +kernel

/-- Every path of a signal leads along keys that were named here. -/
theorem keysOf_signalPath :
    ∀ p ∈ signalPaths, (∃ k ∈ topKeys, keysOf p = [k]) ∨
      (∃ k ∈ fieldKeys, keysOf p = ["fields", k]) ∨
      ∃ k ∈ enrichmentKeys, keysOf p = ["fields", "enrichment", k] := by
  decide +kernel

end Vocabulary

namespace Lead

/-- Two leads with one email and one domain, at whose signal paths the same stands. -/
structure AgreesWith (a b : Lead) : Prop where
  email : a.email = b.email
  domain : a.domain = b.domain
  resolve : ∀ p ∈ Vocabulary.signalPaths, a.resolve p = b.resolve p

/-- A further entry of a lead. -/
def extraEntry (l : Lead) (key : String) : Value := (Value.map l.extra).entry l.cells key

/-- An entry among the fields of a lead. -/
def fieldEntry (l : Lead) (key : String) : Value := (l.cells.deref l.fields).entry l.cells key

/-- An entry in the block of enrichment among the fields of a lead. -/
def enrichmentEntry (l : Lead) (key : String) : Value :=
  (l.fieldEntry "enrichment").entry l.cells key

/-- Two leads that differ at most where no signal looks: their names, companies and campaign
parameters may be any, and so may be the entries under all other keys. -/
structure DiffersElsewhere (a b : Lead) : Prop where
  email : a.email = b.email
  domain : a.domain = b.domain
  extra : ∀ k ∈ Vocabulary.topKeys, a.extraEntry k = b.extraEntry k
  fields : ∀ k ∈ Vocabulary.fieldKeys, a.fieldEntry k = b.fieldEntry k
  enrichment : ∀ k ∈ Vocabulary.enrichmentKeys, a.enrichmentEntry k = b.enrichmentEntry k

/-! ## Where the paths of signals begin -/

variable {a b l : Lead}

/-- The entries from which the paths of a lead start. -/
def attributes (l : Lead) : List (Value × Value) :=
  l.extra |> Value.withEntry "email" l.email |> Value.withEntry "name" l.name
    |> Value.withEntry "company" l.company |> Value.withEntry "domain" l.domain
    |> Value.withEntry "fields" l.fields |> Value.withEntry "utm" l.utm

theorem lookup_attributes_fields (l : Lead) :
    Value.lookup "fields" l.attributes = some l.fields := by
  rw [attributes, Value.lookup_withEntry_of_ne (by decide), Value.lookup_withEntry_self]

/-- Under a key that is none of the lead's own attributes stands what stands there from outside. -/
theorem lookup_attributes_extra {k : String} (h : k ∉ ownKeys) :
    Value.lookup k l.attributes = Value.lookup k l.extra := by
  have hne : ∀ key ∈ ownKeys, k ≠ key := fun key hkey => (ne_of_mem_of_not_mem hkey h).symm
  rw [attributes, Value.lookup_withEntry_of_ne (hne _ (by decide)),
    Value.lookup_withEntry_of_ne (hne _ (by decide)),
    Value.lookup_withEntry_of_ne (hne _ (by decide)),
    Value.lookup_withEntry_of_ne (hne _ (by decide)),
    Value.lookup_withEntry_of_ne (hne _ (by decide)),
    Value.lookup_withEntry_of_ne (hne _ (by decide))]

theorem resolve_eq_entries {path : String} (hpath : path ∈ Vocabulary.signalPaths) :
    l.resolve path = .ok ((Value.map l.attributes).entries l.cells (Vocabulary.keysOf path)) := by
  obtain ⟨hne, hkeys⟩ := Vocabulary.isKeyPath_of_signalPaths path hpath
  exact Value.resolve_eq_entries hne hkeys

theorem entries_top {k : String} (h : k ∈ Vocabulary.topKeys) :
    (Value.map l.attributes).entries l.cells [k] = l.extraEntry k := by
  have hown : ∀ k ∈ Vocabulary.topKeys, k ∉ ownKeys := by decide
  show (Value.map l.attributes).entry l.cells k = l.extraEntry k
  rw [extraEntry, Value.entry_map, Value.entry_map, lookup_attributes_extra (hown k h)]

theorem entry_fields (l : Lead) :
    (Value.map l.attributes).entry l.cells "fields" = l.cells.deref l.fields := by
  rw [Value.entry_map, lookup_attributes_fields, Option.getD_some]

theorem entries_fields (l : Lead) (k : String) :
    (Value.map l.attributes).entries l.cells ["fields", k] = l.fieldEntry k :=
  congrArg (Value.entry l.cells · k) l.entry_fields

theorem entries_enrichment (l : Lead) (k : String) :
    (Value.map l.attributes).entries l.cells ["fields", "enrichment", k] = l.enrichmentEntry k :=
  congrArg (Value.entry l.cells · k) (l.entries_fields "enrichment")

/-- Leads that differ elsewhere only agree at the paths of signals. -/
theorem DiffersElsewhere.agreesWith (h : a.DiffersElsewhere b) : a.AgreesWith b where
  email := h.email
  domain := h.domain
  resolve := by
    intro p hp
    rw [resolve_eq_entries hp, resolve_eq_entries hp]
    refine congrArg Except.ok ?_
    obtain ⟨k, hk, hkeys⟩ | ⟨k, hk, hkeys⟩ | ⟨k, hk, hkeys⟩ := Vocabulary.keysOf_signalPath p hp
    · rw [hkeys, entries_top hk, entries_top hk, h.extra k hk]
    · rw [hkeys, entries_fields, entries_fields, h.fields k hk]
    · rw [hkeys, entries_enrichment, entries_enrichment, h.enrichment k hk]

/-- No signal tells leads apart that agree. -/
theorem AgreesWith.isSpelledLike (h : a.AgreesWith b) : a.IsSpelledLike b := by
  have hrefl : ∀ {R : Value → Value → Prop}, (∀ v, R v v) → ∀ p ∈ Vocabulary.signalPaths,
      Except.Rel R (a.resolve p) (b.resolve p) := fun hR p hp => h.resolve p hp ▸ .refl hR _
  have hplain : Vocabulary.plainPaths ⊆ Vocabulary.signalPaths := by decide
  have htiers : Vocabulary.tierPaths ⊆ Vocabulary.signalPaths := by decide
  exact
    { email := h.email ▸ .seen (.refl _)
      domain := h.domain ▸ .seen (.refl _)
      plain := fun p hp => hrefl .refl p (hplain hp)
      tiers := fun p hp => hrefl (fun v => .seen (.refl v)) p (htiers hp) }

end Lead

/-! ## The base score -/

namespace BaseScore

theorem ofLead_congr {a b : Lead} (h : a.AgreesWith b) (tables : DomainTables) (c : Scorecard) :
    ofLead tables a c = ofLead tables b c :=
  ofLead_eq_of_isSpelledLike h.isSpelledLike tables c

/-- Under every scorecard two leads with one email and one domain, at whose signal paths the same
stands, have the same base score or the same failure.  So have two leads that differ elsewhere only:
in their names, companies, campaign parameters, further entries and fields. -/
theorem ofValue_congr (tables : DomainTables) (c : Scorecard) {cells cells' : Cells} {v w : Value}
    {a b : Lead} (ha : Lead.ofValue? cells v = some a) (hb : Lead.ofValue? cells' w = some b) :
    (a.AgreesWith b → ofValue tables cells v c = ofValue tables cells' w c) ∧
      (a.DiffersElsewhere b → ofValue tables cells v c = ofValue tables cells' w c) := by
  have hagrees : a.AgreesWith b → ofValue tables cells v c = ofValue tables cells' w c := by
    intro h
    rw [ofValue, ofValue, ha, hb]
    exact ofLead_congr h tables c
  exact ⟨hagrees, fun h => hagrees h.agreesWith⟩

/-! Two leads of one address and one title. -/

namespace TwoLeads

def named : Value :=
  .map [(.text "email", .text "pat@gmail.com"), (.text "name", .text "Pat"),
    (.text "fields", .map [(.text "title", .text "CEO"), (.text "plan", .text "pro")])]

def unnamed : Value :=
  .map [(.text "email", .text "pat@gmail.com"), (.text "utmParams", .map [(.int 1, .null)]),
    (.text "score", .int 100), (.text "fields", .map [(.text "title", .text "CEO")])]

theorem differsElsewhere :
    (Lead.ofEntries [] (named.entries?.getD [])).DiffersElsewhere
      (Lead.ofEntries [] (unnamed.entries?.getD [])) where
  email := rfl
  domain := rfl
  extra := by
    intro k hk
    fin_cases hk <;> rfl
  fields := by
    intro k hk
    fin_cases hk <;> rfl
  enrichment := by
    intro k hk
    fin_cases hk <;> rfl

end TwoLeads

open TwoLeads in
theorem ofValue_congr_twoLeads :
    (∃ a b, Lead.ofValue? [] named = some a ∧ Lead.ofValue? [] unnamed = some b ∧
      a.AgreesWith b ∧ a.DiffersElsewhere b) ∧
    ∀ c, ofValue {} [] named c = ofValue {} [] unnamed c :=
  ⟨⟨_, _, rfl, rfl, differsElsewhere.agreesWith, differsElsewhere⟩,
    fun c => (ofValue_congr {} c rfl rfl).1 differsElsewhere.agreesWith⟩

end BaseScore

end Qualify
