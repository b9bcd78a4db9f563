import Qualify.Proofs.BaseScore.Signal
import Qualify.Proofs.Points

/-!
# What a base score is made of

A base score comes from five signals, each read off the lead on its own.  The equivalence
`BaseScore.ofLead_eq_ok_iff` says that it is their points, tags and trace lines put together and
nothing else; whatever is to be known about a base score is then a matter of one signal at a time.
-/

namespace Qualify

/-- The five signals of a lead. -/
structure Signals where
  jobRole : Signal
  urgency : Signal
  engagement : Signal
  enrichment : Signal
  negative : Signal

namespace Signals

def toList (s : Signals) : List Signal :=
  [s.jobRole, s.urgency, s.engagement, s.enrichment, s.negative]

def components (s : Signals) : Components where
  jobRole := s.jobRole.points
  urgency := s.urgency.points
  engagement := s.engagement.points
  enrichment := s.enrichment.points
  negative := s.negative.points

/-- These are the signals that a lead gives under a scorecard. -/
structure OfLead (tables : DomainTables) (lead : Lead) (c : Scorecard) (s : Signals) : Prop where
  jobRole : Signal.ofSection c.weights (fun w => Signal.jobRole lead w) = .ok s.jobRole
  urgency : Signal.ofSection c.weights (fun w =>
    Signal.level lead w.urgency Vocabulary.urgencyPaths Vocabulary.urgencyLevels "Urgency") =
      .ok s.urgency
  engagement : Signal.ofSection c.weights (fun w =>
    Signal.level lead w.engagement Vocabulary.engagementPaths Vocabulary.engagementLevels
      "Engagement") = .ok s.engagement
  enrichment : Signal.ofSection c.enrichment (fun e => Signal.enrichment lead e) = .ok s.enrichment
  negative : Signal.ofSection c.penalties (fun p =>
    Signal.penalties tables lead c.competitorDomains p) = .ok s.negative

end Signals

namespace BaseScore

variable {tables : DomainTables} {lead : Lead} {c : Scorecard} {b : BaseScore}

/-- A base score is what its five signals come to. -/
theorem ofLead_eq_ok_iff :
    ofLead tables lead c = .ok b ↔
      ∃ s : Signals, s.OfLead tables lead c ∧ clampScore s.components.total = .ok b.score ∧
        b.components = s.components ∧ b.tags = distinctTags (s.toList.flatMap Signal.tags) ∧
        b.trace = s.toList.flatMap Signal.trace := by
  unfold ofLead
  simp only [Except.bind_eq_ok_iff, Except.pure_eq_ok_iff]
  constructor
  · rintro ⟨jobRole, hjobRole, urgency, hurgency, engagement, hengagement, enrichment, henrichment,
      negative, hnegative, score, hscore, rfl⟩
    exact ⟨⟨jobRole, urgency, engagement, enrichment, negative⟩,
      ⟨hjobRole, hurgency, hengagement, henrichment, hnegative⟩, hscore, rfl, rfl, rfl⟩
  · rintro ⟨s, h, hscore, hcomponents, htags, htrace⟩
    refine ⟨_, h.jobRole, _, h.urgency, _, h.engagement, _, h.enrichment, _, h.negative, _, hscore,
      ?_⟩
    cases b
    cases hcomponents
    cases htags
    cases htrace
    rfl

/-- The score is the sum of the components, brought between the least and the greatest score. -/
theorem clampScore_total {cells : Cells} {v : Value} (h : ofValue tables cells v c = .ok b) :
    clampScore b.components.total = .ok b.score := by
  unfold ofValue at h
  split at h
  · obtain ⟨s, -, hscore, hcomponents, -⟩ := ofLead_eq_ok_iff.mp h
    rw [hcomponents]
    exact hscore
  · cases h
    change clampScore 0 = .ok 0
    exact clampScore_eq_ok_iff.mpr ⟨by decide, rfl⟩

/-- The components of what is no lead are zero. -/
theorem components_of_noLead {cells : Cells} {v : Value} (h : ofValue tables cells v c = .ok b)
    (hlead : Lead.ofValue? cells v = none) : b.components = {} := by
  rw [ofValue, hlead] at h
  cases h
  rfl

end BaseScore

/-! ## Tags

Five signals choose their tags from a fixed stock.  A tier alone takes a tag from elsewhere: the key
under which it was looked up. -/

/-- A lead names a tier of a table at one of these paths. -/
def Lead.NamesTier (lead : Lead) (paths : List String) (table : PointTable) (key : String) : Prop :=
  ∃ s, lead.firstFilled paths = .ok (.text s) ∧ PointTable.tierKey s = key ∧
    (table.get? key).isSome

/-- A lead names a tier of one of the tables by which it is enriched. -/
def Lead.IsEnrichedBy (lead : Lead) (c : Scorecard) (key : String) : Prop :=
  ∃ e, c.enrichment = some e ∧ (lead.NamesTier Vocabulary.companySizePaths e.companySize key ∨
    lead.NamesTier Vocabulary.industryPaths e.industry key)

namespace Tag

/-- The tags that do not depend on what a lead says. -/
def stock : List String := [executive, enriched, competitor, freeEmail, invalidDomain, spam]

end Tag

namespace Signal

variable {lead : Lead} {s : Signal}

def IsPlain (s : Signal) : Prop := ∀ t ∈ s.tags, t ∈ Tag.stock

theorem isPlain_nil : IsPlain {} := List.forall_mem_nil _

theorem isPlain_jobRole {w : Weights} (h : jobRole lead w = .ok s) : s.IsPlain := by
  rw [jobRole_eq_signal, Inquiry.signal_eq_ok_iff] at h
  obtain ⟨-, -, rfl⟩ | ⟨title, tier, points, -, -, rfl⟩ := h
  · exact isPlain_nil
  · intro t ht
    dsimp only [Inquiry.entry, Inquiry.title] at ht
    split at ht
    · rw [List.mem_singleton.mp ht]
      decide
    · cases ht

/-- A level bears no tag. -/
theorem tags_level {weight : Binary64} {paths : List String} {levels : Vocabulary.Levels}
    {label : String} (h : level lead weight paths levels label = .ok s) : s.tags = [] := by
  rw [level_eq_signal, Inquiry.signal_eq_ok_iff] at h
  obtain ⟨-, -, rfl⟩ | ⟨text, share, points, -, -, rfl⟩ := h
  · rfl
  · rfl

theorem isPlain_level {weight : Binary64} {paths : List String} {levels : Vocabulary.Levels}
    {label : String} (h : level lead weight paths levels label = .ok s) : s.IsPlain := by
  rw [IsPlain, tags_level h]
  exact List.forall_mem_nil _

/-- A penalty bears its own tag, if any. -/
theorem eq_of_mem_tags_penalty {fired : Bool} {magnitude : Binary64} {tag line t : String}
    (h : penalty fired magnitude tag line = .ok s) (ht : t ∈ s.tags) : t = tag := by
  obtain ⟨-, rfl⟩ | ⟨-, points, -, rfl⟩ := penalty_eq_ok_iff.mp h
  · cases ht
  · exact List.mem_singleton.mp ht

/-- The penalties bear no tags but the four that are theirs. -/
theorem mem_penaltyTags {tables : DomainTables} {own : List String} {p : Penalties}
    (h : penalties tables lead own p = .ok s) {t : String} (ht : t ∈ s.tags) :
    t ∈ [Tag.competitor, Tag.freeEmail, Tag.invalidDomain, Tag.spam] := by
  obtain ⟨f, ⟨⟨_, -, hcompetitor⟩, ⟨_, -, hfreeEmail⟩, hinvalidDomain, hspam⟩, rfl⟩ :=
    penalties_eq_ok_iff.mp h
  simp only [Fined.total, Signal.and, List.mem_append] at ht
  rcases ht with ((ht | ht) | ht) | ht
  · rw [eq_of_mem_tags_penalty hcompetitor ht]
    decide
  · rw [eq_of_mem_tags_penalty hfreeEmail ht]
    decide
  · rw [eq_of_mem_tags_penalty hinvalidDomain ht]
    decide
  · rw [eq_of_mem_tags_penalty hspam ht]
    decide

theorem isPlain_penalties {tables : DomainTables} {own : List String} {p : Penalties}
    (h : penalties tables lead own p = .ok s) : s.IsPlain := by
  have hstock : [Tag.competitor, Tag.freeEmail, Tag.invalidDomain, Tag.spam] ⊆ Tag.stock := by decide
  exact fun t ht => hstock (mem_penaltyTags h ht)

/-- A lead names the tier that its inquiry finds. -/
theorem namesTier_iff {paths : List String} {table : PointTable} (label : String) {key : String} :
    lead.NamesTier paths table key ↔
      ∃ text x, (Inquiry.tier paths table label).found? lead = some (text, x) ∧
        PointTable.tierKey text = key := by
  simp only [Inquiry.found?_eq_some_iff, Inquiry.tier, Lead.NamesTier, Option.isSome_iff_exists]
  constructor
  · rintro ⟨text, hgiven, rfl, x, hx⟩
    exact ⟨text, x, ⟨hgiven, hx⟩, rfl⟩
  · rintro ⟨text, x, ⟨hgiven, hx⟩, rfl⟩
    exact ⟨text, hgiven, rfl, x, hx⟩

/-- A tier bears its key for a tag, and no tag but that from outside the stock. -/
theorem mem_tags_tier {paths : List String} {table : PointTable} {label t : String}
    (h : tier lead paths table label = .ok s) :
    t ∈ s.tags ↔ ∃ key, lead.NamesTier paths table key ∧ (t = Tag.enriched ∨ t = key) := by
  rw [tier_eq_signal, Inquiry.signal_eq_ok_iff] at h
  simp only [namesTier_iff label]
  obtain ⟨-, hnone, rfl⟩ | ⟨text, x, points, hfound, -, rfl⟩ := h
  · simp [hnone]
  · show t ∈ [Tag.enriched, PointTable.tierKey text] ↔ _
    simp [hfound]

end Signal

namespace BaseScore

/-- The tags of an enrichment are its own, and the keys of the tiers that the lead names. -/
theorem mem_enrichmentTags {s : Signals} (h : s.OfLead tables lead c) {t : String}
    (ht : t ≠ Tag.enriched) : t ∈ s.enrichment.tags ↔ lead.IsEnrichedBy c t := by
  have hsection := h.enrichment
  unfold Lead.IsEnrichedBy
  cases hc : c.enrichment with
  | none =>
      rw [hc] at hsection
      rw [← Except.ok.inj hsection]
      simp
  | some e =>
      rw [hc] at hsection
      obtain ⟨size, industry, hsize, hindustry, heq⟩ := Signal.enrichment_eq_ok_iff.mp hsection
      rw [heq]
      simp [Signal.and, Signal.mem_tags_tier hsize, Signal.mem_tags_tier hindustry, ht]

/-- A tag of a base score is from the stock, unless it is the key of a tier that the lead names. -/
theorem mem_tags_ofLead (h : ofLead tables lead c = .ok b) {t : String} (ht : t ∉ Tag.stock) :
    t ∈ b.tags ↔ lead.IsEnrichedBy c t := by
  obtain ⟨s, hs, -, -, htags, -⟩ := ofLead_eq_ok_iff.mp h
  have hnone : ∀ {r : Signal}, r.IsPlain → t ∉ r.tags := fun hplain hmem => ht (hplain t hmem)
  have hjobRole : s.jobRole.IsPlain := Signal.ofSection_induction Signal.isPlain_nil
    (fun _ _ _ => Signal.isPlain_jobRole) hs.jobRole
  have hurgency : s.urgency.IsPlain := Signal.ofSection_induction Signal.isPlain_nil
    (fun _ _ _ => Signal.isPlain_level) hs.urgency
  have hengagement : s.engagement.IsPlain := Signal.ofSection_induction Signal.isPlain_nil
    (fun _ _ _ => Signal.isPlain_level) hs.engagement
  have hnegative : s.negative.IsPlain := Signal.ofSection_induction Signal.isPlain_nil
    (fun _ _ _ => Signal.isPlain_penalties) hs.negative
  have henriched : t ≠ Tag.enriched := by
    rintro rfl
    exact ht (by decide)
  rw [htags, distinctTags, List.mem_eraseDups]
  simp [Signals.toList, hnone hjobRole, hnone hurgency, hnone hengagement, hnone hnegative,
    mem_enrichmentTags hs henriched]

end BaseScore

end Qualify
