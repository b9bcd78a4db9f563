import Qualify.Proofs.BaseScore
import Qualify.Proofs.Text.Lines

/-!
# What a base score prints

The tags and trace lines of a base score are put together from fixed words, numbers and two kinds of
texts from elsewhere: the job title, as the lead writes it, and the keys by which the lead's tiers
are looked up.  A level is printed as the vocabulary has it and a tier as its table has it, so that
of these no more of the lead's own writing is left than picks one of them out.  A base score keeps
to its lines exactly if those two kinds of texts do (`BaseScore.keepsLines_iff`).
-/

namespace Qualify

open Text (IsOneLine)

/-- A title that is printed because it tells a seniority. -/
structure Lead.PrintsTitle (lead : Lead) (c : Scorecard) (title : String) : Prop where
  weights : c.weights.isSome
  given : lead.firstFilled Vocabulary.titlePaths = .ok (.text title)
  seniority : (Signal.seniority? title).isSome

namespace Signal

variable {lead : Lead} {s s' : Signal} {label : String}

/-- Every trace line of the signal is one line. -/
def KeepsLines (s : Signal) : Prop := ∀ t ∈ s.trace, IsOneLine t

theorem keepsLines_nil : KeepsLines {} := List.forall_mem_nil _

theorem keepsLines_and : (s.and s').KeepsLines ↔ s.KeepsLines ∧ s'.KeepsLines :=
  List.forall_mem_append

theorem keepsLines_jobRole {w : Weights} (h : jobRole lead w = .ok s) :
    s.KeepsLines ↔ ∀ title, lead.firstFilled Vocabulary.titlePaths = .ok (.text title) →
      (seniority? title).isSome → IsOneLine title := by
  have hnames : ∀ t ∈ Vocabulary.tiers, IsOneLine t.name := by decide +kernel
  rw [jobRole_eq_signal, Inquiry.signal_eq_ok_iff] at h
  obtain ⟨-, hnone, rfl⟩ | ⟨title, tier, points, hfound, -, rfl⟩ := h
  · refine iff_of_true keepsLines_nil fun title hgiven hsome => ?_
    have htier : seniority? title = none := Inquiry.found?_eq_none_iff.mp hnone title hgiven
    rw [htier] at hsome
    cases hsome
  · obtain ⟨hgiven, htier⟩ := Inquiry.found?_eq_some_iff.mp hfound
    have hname : IsOneLine tier.name := hnames tier (mem_tiers_of_seniority? htier)
    have hline : KeepsLines ((Inquiry.title w).entry title tier points) ↔ IsOneLine title := by
      rw [KeepsLines, Inquiry.entry, List.forall_mem_singleton, Inquiry.title]
      have hwords : IsOneLine "Job role '" ∧ IsOneLine "' matched " ∧ IsOneLine " tier (" ∧
          IsOneLine ")" := by decide
      simp only [Text.isOneLine_append, hname, Text.isOneLine_signedText, hwords, true_and,
        and_true]
    rw [hline]
    constructor
    · intro htitle title' hgiven' _
      cases hgiven.symm.trans hgiven'
      exact htitle
    · exact fun h => h title hgiven (Option.isSome_iff_exists.mpr ⟨tier, htier⟩)

/-- The line that a level or a tier leaves. -/
theorem isOneLine_entry {key : String} (hlabel : IsOneLine label) (hkey : IsOneLine key)
    (points : Int) : IsOneLine (label ++ " '" ++ key ++ "' (" ++ signedText points ++ ")") := by
  simp only [Text.isOneLine_append, hlabel, hkey, Text.isOneLine_signedText, true_and, and_true]
  decide

theorem keepsLines_level {weight : Binary64} {paths : List String} {levels : Vocabulary.Levels}
    (hlevels : ∀ l ∈ levels, IsOneLine l.1) (hlabel : IsOneLine label)
    (h : level lead weight paths levels label = .ok s) : s.KeepsLines := by
  rw [level_eq_signal, Inquiry.signal_eq_ok_iff] at h
  obtain ⟨-, -, rfl⟩ | ⟨text, share, points, hfound, -, rfl⟩ := h
  · exact keepsLines_nil
  · obtain ⟨-, hshare⟩ := Inquiry.found?_eq_some_iff.mp hfound
    have hlevel : IsOneLine (normalizedLevel text) :=
      hlevels (normalizedLevel text, share) (List.mem_of_lookup_eq_some hshare)
    exact List.forall_mem_singleton.mpr (isOneLine_entry hlabel hlevel points)

/-- A tier is printed under the key that the lead names. -/
theorem keepsLines_tier {paths : List String} {table : PointTable} (hlabel : IsOneLine label)
    (hkeys : ∀ key, lead.NamesTier paths table key → IsOneLine key)
    (h : tier lead paths table label = .ok s) : s.KeepsLines := by
  rw [tier_eq_signal, Inquiry.signal_eq_ok_iff] at h
  obtain ⟨-, -, rfl⟩ | ⟨text, x, points, hfound, -, rfl⟩ := h
  · exact keepsLines_nil
  · have hkey : IsOneLine (PointTable.tierKey text) :=
      hkeys _ ((namesTier_iff label).mpr ⟨text, x, hfound, rfl⟩)
    exact List.forall_mem_singleton.mpr (isOneLine_entry hlabel hkey points)

theorem keepsLines_penalty {fired : Bool} {magnitude : Binary64} {tag line : String}
    (hline : IsOneLine line) (h : penalty fired magnitude tag line = .ok s) : s.KeepsLines := by
  obtain ⟨-, rfl⟩ | ⟨-, points, -, rfl⟩ := penalty_eq_ok_iff.mp h
  · exact keepsLines_nil
  · exact List.forall_mem_singleton.mpr hline

theorem keepsLines_penalties {tables : DomainTables} {own : List String} {p : Penalties}
    (h : penalties tables lead own p = .ok s) : s.KeepsLines := by
  obtain ⟨f, ⟨⟨_, -, hcompetitor⟩, ⟨_, -, hfreeEmail⟩, hinvalidDomain, hspam⟩, rfl⟩ :=
    penalties_eq_ok_iff.mp h
  simp only [Fined.total, keepsLines_and]
  exact ⟨⟨⟨keepsLines_penalty (by decide) hcompetitor, keepsLines_penalty (by decide) hfreeEmail⟩,
    keepsLines_penalty (by decide) hinvalidDomain⟩, keepsLines_penalty (by decide) hspam⟩

end Signal

namespace BaseScore

variable {tables : DomainTables} {lead : Lead} {c : Scorecard} {b : BaseScore}

/-- No tag and no trace line of the base score takes more than a line. -/
structure KeepsLines (b : BaseScore) : Prop where
  tags : ∀ t ∈ b.tags, IsOneLine t
  trace : ∀ t ∈ b.trace, IsOneLine t

theorem forall_tags_iff (h : ofLead tables lead c = .ok b) :
    (∀ t ∈ b.tags, IsOneLine t) ↔ ∀ key, lead.IsEnrichedBy c key → IsOneLine key := by
  have hstock : ∀ t ∈ Tag.stock, IsOneLine t := by decide
  constructor
  · intro htags key hkey
    by_cases hmem : key ∈ Tag.stock
    · exact hstock key hmem
    · exact htags key ((mem_tags_ofLead h hmem).mpr hkey)
  · intro hkeys t ht
    by_cases hmem : t ∈ Tag.stock
    · exact hstock t hmem
    · exact hkeys t ((mem_tags_ofLead h hmem).mp ht)

theorem keepsLines_enrichment {s : Signals} (hs : s.OfLead tables lead c)
    (hkeys : ∀ key, lead.IsEnrichedBy c key → IsOneLine key) : s.enrichment.KeepsLines := by
  refine Signal.ofSection_induction Signal.keepsLines_nil (fun e r he h => ?_) hs.enrichment
  obtain ⟨size, industry, hsize, hindustry, rfl⟩ := Signal.enrichment_eq_ok_iff.mp h
  rw [Signal.keepsLines_and]
  constructor
  · apply Signal.keepsLines_tier (by decide) _ hsize
    exact fun key hkey => hkeys key ⟨e, he, .inl hkey⟩
  · apply Signal.keepsLines_tier (by decide) _ hindustry
    exact fun key hkey => hkeys key ⟨e, he, .inr hkey⟩

theorem keepsLines_jobRole_iff {s : Signals} (hs : s.OfLead tables lead c) :
    s.jobRole.KeepsLines ↔ ∀ title, lead.PrintsTitle c title → IsOneLine title := by
  have hjobRole := hs.jobRole
  cases hc : c.weights with
  | none =>
      rw [hc] at hjobRole
      rw [← Except.ok.inj hjobRole]
      refine iff_of_true Signal.keepsLines_nil fun title htitle => ?_
      have hsome := htitle.weights
      rw [hc] at hsome
      cases hsome
  | some w =>
      rw [hc] at hjobRole
      have hweights : c.weights.isSome = true := by rw [hc]; rfl
      rw [Signal.keepsLines_jobRole hjobRole]
      constructor
      · exact fun h title htitle => h title htitle.given htitle.seniority
      · exact fun h title hgiven hseniority => h title ⟨hweights, hgiven, hseniority⟩

/-- The base score of a lead keeps to its lines exactly if the title does by which the lead has a
seniority, and the keys of its tiers. -/
theorem keepsLines_iff (h : ofLead tables lead c = .ok b) :
    b.KeepsLines ↔ (∀ title, lead.PrintsTitle c title → IsOneLine title) ∧
      ∀ key, lead.IsEnrichedBy c key → IsOneLine key := by
  obtain ⟨s, hs, -, -, -, htrace⟩ := ofLead_eq_ok_iff.mp h
  have hsignals : (∀ t ∈ b.trace, IsOneLine t) ↔ ∀ r ∈ s.toList, r.KeepsLines := by
    rw [htrace, List.forall_mem_flatMap]
    rfl
  have hurgency : s.urgency.KeepsLines := Signal.ofSection_induction Signal.keepsLines_nil
    (fun _ _ _ => Signal.keepsLines_level (by decide +kernel) (by decide)) hs.urgency
  have hengagement : s.engagement.KeepsLines := Signal.ofSection_induction Signal.keepsLines_nil
    (fun _ _ _ => Signal.keepsLines_level (by decide +kernel) (by decide)) hs.engagement
  have hnegative : s.negative.KeepsLines := Signal.ofSection_induction Signal.keepsLines_nil
    (fun _ _ _ => Signal.keepsLines_penalties) hs.negative
  have htitles := keepsLines_jobRole_iff hs
  have hkeys := forall_tags_iff h
  constructor
  · rintro ⟨htags, htrace⟩
    have hjobRole : s.jobRole.KeepsLines := hsignals.mp htrace _ List.mem_cons_self
    exact ⟨htitles.mp hjobRole, hkeys.mp htags⟩
  · rintro ⟨htitle, hkey⟩
    refine ⟨hkeys.mpr hkey, hsignals.mpr ?_⟩
    simp only [Signals.toList, List.forall_mem_cons]
    exact ⟨htitles.mpr htitle, hurgency, hengagement, keepsLines_enrichment hs hkey, hnegative,
      List.forall_mem_nil _⟩

/-- What is no lead is told so on one line. -/
theorem keepsLines_ofNoLead (v : Value) : (ofNoLead v).KeepsLines := by
  have htype : IsOneLine v.typeName := by
    cases v with
    | _ =>
        dsimp only [Value.typeName]
        decide
  refine ⟨List.forall_mem_singleton.mpr (by decide), List.forall_mem_singleton.mpr ?_⟩
  rw [Text.isOneLine_append]
  refine ⟨by decide, ?_⟩
  split
  · decide
  · exact Text.isOneLine_append.mpr ⟨by decide, htype⟩

end BaseScore

end Qualify
