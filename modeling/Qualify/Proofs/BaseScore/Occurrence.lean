import Qualify.Pattern.Reader
import Qualify.Proofs.BaseScore.Seniority
import Qualify.Proofs.Number.Order
import Qualify.Proofs.Pattern.Match

/-!
# Which titles tell a seniority

A title tells a seniority by a term that stands in it, in lower case, with no letter or digit beside
it.  The search for terms and the pattern that lists them between two assertions come to that same
statement (`hasTerm_iff_standsApart`, `Vocabulary.Tier.occursIn_pattern_iff`), however the terms of
a seniority overlap.  Seniorities are listed by their shares, so the first one that a title tells has
the greatest share of all that it tells; that one makes up the signal (`BaseScore.jobRole_told`).
-/

namespace Qualify

open Domain (isLetterOrDigit)

/-- A term stands in a text, and the characters beside it, if there are any, are no letters or
digits. -/
def StandsApart (term cs : List Char) : Prop :=
  ∃ before after, cs = before ++ term ++ after ∧
    (∀ c ∈ before.getLast?, isLetterOrDigit c = false) ∧
      ∀ c ∈ after.head?, isLetterOrDigit c = false

/-- The search for a term finds it where it stands apart. -/
theorem hasTerm_iff_standsApart {term cs : List Char} (hterm : term ≠ []) :
    Signal.hasTerm term false cs = true ↔ StandsApart term cs := by
  rw [Signal.hasTerm_iff hterm]
  refine exists₂_congr fun before after => and_congr_right fun _ => and_congr ?_ ?_
  · rw [Signal.endsJoined_eq_getLast?, Option.any_eq_false]
    simp only [Option.mem_def]
  · rw [Signal.startsJoined, Option.any_eq_false]
    simp only [Option.mem_def]

namespace Vocabulary.Tier

/-! ## The pattern of a seniority -/

/-- A character of the basic alphabet in lower case, or a digit of it. -/
def alphanumeric : Pattern.CharTest :=
  .set { folding := .none } [.range 'a'.toNat 'z'.toNat, .range '0'.toNat '9'.toNat] false

/-- One of the terms, with no letter or digit beside it. -/
def pattern (t : Tier) : Pattern :=
  .apart alphanumeric (.oneOf ((t.terms.map String.toList).map .exactly))

/-- A term in a pattern, where blanks and hyphens stand behind a backslash. -/
def escaped (term : String) : String :=
  String.ofList (term.toList.flatMap fun c => if c = ' ' ∨ c = '-' then ['\\', c] else [c])

/-- The pattern in the usual notation. -/
def patternText (t : Tier) : String :=
  "(?-i:(?<![a-z0-9])(?:" ++ "|".intercalate (t.terms.map escaped) ++ ")(?![a-z0-9]))"

deriving instance DecidableEq for Pattern

theorem ofText_patternText :
    ∀ t ∈ tiers, Pattern.ofText t.patternText = .ok (some t.pattern) := by
  decide +kernel

theorem holds_alphanumeric (c : Char) : alphanumeric.holds c = isLetterOrDigit c := by
  simp [alphanumeric, Pattern.CharTest.holds, Pattern.SetItem.folds, Pattern.SetItem.holds,
    isLetterOrDigit, Domain.isLetter, Char.le_def, UInt32.le_iff_toNat_le]

/-! ## Telling a seniority -/

/-- A title tells a seniority by one of its terms. -/
def IsToldBy (t : Tier) (title : String) : Prop :=
  ∃ term ∈ t.terms, StandsApart term.toList (Text.lower title.toList)

/-- A title tells a seniority and none that is listed before it. -/
structure IsFirstToldBy (t : Tier) (title : String) : Prop where
  told : t.IsToldBy title
  first : ∃ higher lower, tiers = higher ++ t :: lower ∧ ∀ u ∈ higher, ¬u.IsToldBy title

variable {t : Tier} {title : String}

/-- The pattern of a seniority is found in a title exactly if the title tells the seniority. -/
theorem occursIn_pattern_iff (ht : t ∈ tiers) :
    t.pattern.occursIn title.lowerCase = true ↔ t.IsToldBy title := by
  have hne : ∀ t ∈ tiers, t.terms ≠ [] := by decide
  have hterms : t.terms.map String.toList ≠ [] := by simpa using hne t ht
  rw [pattern, Pattern.occursIn_apart_iff hterms, String.lowerCase, String.toList_ofList]
  simp only [holds_alphanumeric, List.mem_map, exists_exists_and_eq_and]
  rfl

/-- The search for terms finds a seniority exactly if the title tells it. -/
theorem any_hasTerm_iff (ht : t ∈ tiers) :
    (t.terms.any fun term => Signal.hasTerm term.toList false (Text.lower title.toList)) = true ↔
      t.IsToldBy title := by
  rw [List.any_eq_true]
  refine exists_congr fun term => and_congr_right fun hterm => ?_
  exact hasTerm_iff_standsApart (Signal.ne_nil_of_mem_terms t ht term hterm)

/-- What a title tells is the first seniority listed that it tells. -/
theorem isFirstToldBy_iff : t.IsFirstToldBy title ↔ Signal.seniority? title = some t := by
  have hmem : ∀ {u higher lower}, tiers = higher ++ t :: lower → u ∈ higher → u ∈ tiers :=
    fun heq hu => heq ▸ List.mem_append_left _ hu
  have htold : ∀ {higher lower}, tiers = higher ++ t :: lower → t ∈ tiers :=
    fun heq => heq ▸ List.mem_append_right _ List.mem_cons_self
  rw [Signal.seniority?, List.find?_eq_some_iff_append]
  constructor
  · rintro ⟨h, higher, lower, heq, hfirst⟩
    refine ⟨(any_hasTerm_iff (htold heq)).mpr h, higher, lower, heq, fun u hu => ?_⟩
    rw [Bool.not_eq_true', Bool.eq_false_iff, Ne, any_hasTerm_iff (hmem heq hu)]
    exact hfirst u hu
  · rintro ⟨h, higher, lower, heq, hfirst⟩
    refine ⟨(any_hasTerm_iff (htold heq)).mp h, higher, lower, heq, fun u hu => ?_⟩
    have hnone := hfirst u hu
    rwa [Bool.not_eq_true', Bool.eq_false_iff, Ne, any_hasTerm_iff (hmem heq hu)] at hnone

theorem seniority?_eq_none_iff :
    Signal.seniority? title = none ↔ ∀ t ∈ tiers, ¬t.IsToldBy title := by
  rw [Signal.seniority?, List.find?_eq_none]
  exact forall₂_congr fun t ht => not_congr (any_hasTerm_iff ht)

/-- Seniorities are listed by their shares, the greatest first. -/
theorem pairwise_share : tiers.Pairwise fun high low => low.share.value ≤ high.share.value := by
  simp [tiers, hundredths, Decimal.value]
  norm_num

/-- No seniority that a title tells has a greater share than the first one. -/
theorem IsFirstToldBy.share_le (h : t.IsFirstToldBy title) {u : Tier} (hu : u ∈ tiers)
    (htold : u.IsToldBy title) : u.share.value ≤ t.share.value := by
  obtain ⟨higher, lower, heq, hfirst⟩ := h.first
  have hpairwise := pairwise_share
  rw [heq, List.pairwise_append, List.pairwise_cons] at hpairwise
  rw [heq, List.mem_append, List.mem_cons] at hu
  rcases hu with hu | rfl | hu
  · exact absurd htold (hfirst u hu)
  · exact le_rfl
  · exact hpairwise.2.1.1 u hu

end Vocabulary.Tier

/-- The title that a lead gives first. A lead that gives none, or an empty one only, has the empty
title. -/
def Lead.HasTitle (lead : Lead) (title : String) : Prop :=
  lead.firstFilled Vocabulary.titlePaths = .ok (if title = "" then .null else .text title)

namespace BaseScore

open Vocabulary (tiers)

variable {tables : DomainTables} {lead : Lead} {c : Scorecard} {w : Weights} {b : BaseScore}
variable {title : String}

/-- A title without a seniority is worth nothing. -/
theorem jobRole_of_none (htitle : lead.HasTitle title)
    (hnone : Signal.seniority? title = none) : Signal.jobRole lead w = .ok {} := by
  have hgiven : lead.firstFilled Vocabulary.titlePaths =
      .ok (if title = "" then .null else .text title) := htitle
  rw [Signal.jobRole_eq_signal]
  refine Signal.Inquiry.signal_of_none hgiven (Signal.Inquiry.found?_eq_none_iff.mpr ?_)
  intro text htext
  have heq := Except.ok.inj (hgiven.symm.trans htext)
  split_ifs at heq
  cases heq
  exact hnone

/-- A title that tells a seniority is not empty. -/
theorem firstFilled_of_seniority {t : Vocabulary.Tier} (htitle : lead.HasTitle title)
    (ht : Signal.seniority? title = some t) :
    lead.firstFilled Vocabulary.titlePaths = .ok (.text title) := by
  have hnone : Signal.seniority? "" = none := by decide +kernel
  have hne : title ≠ "" := by
    rintro rfl
    exact nomatch hnone.symm.trans ht
  rw [htitle, if_neg hne]

/-- The job role is a signal exactly if the title tells some seniority, in the words of the
vocabulary or by their pattern.  The signal is that of the first seniority told, which has the
greatest share of all that are, and it bears the tag of executives exactly if that is theirs. -/
theorem jobRole_told (hweights : c.weights = some w) (htitle : lead.HasTitle title)
    (hb : ofLead tables lead c = .ok b) :
    (∀ t ∈ tiers, Pattern.ofText t.patternText = .ok (some t.pattern) ∧
      (t.pattern.occursIn title.lowerCase = true ↔ t.IsToldBy title)) ∧
    ∃ s, Signal.jobRole lead w = .ok s ∧ b.components.jobRole = s.points ∧ s.trace <+: b.trace ∧
      (Tag.executive ∈ b.tags ↔ Tag.executive ∈ s.tags ∨ lead.IsEnrichedBy c Tag.executive) ∧
      (s ≠ {} ↔ ∃ t ∈ tiers, t.IsToldBy title) ∧
      (s ≠ {} → ∃ t : Vocabulary.Tier, t.IsFirstToldBy title) ∧
      ∀ t : Vocabulary.Tier, t.IsFirstToldBy title →
        scaledPoints w.jobRole.shown t.share = .ok s.points ∧ s = Signal.ofTier title t s.points ∧
          (Tag.executive ∈ s.tags ↔ t.name = "executive") ∧
          ∀ u ∈ tiers, u.IsToldBy title → u.share.value ≤ t.share.value := by
  refine ⟨fun t ht => ⟨Vocabulary.Tier.ofText_patternText t ht,
    Vocabulary.Tier.occursIn_pattern_iff ht⟩, ?_⟩
  obtain ⟨s, hs, -, hcomponents, htags, htrace⟩ := ofLead_eq_ok_iff.mp hb
  have hjobRole : Signal.jobRole lead w = .ok s.jobRole := by
    have hsection := hs.jobRole
    rwa [hweights] at hsection
  have hearned : ∀ t, Signal.seniority? title = some t →
      scaledPoints w.jobRole.shown t.share = .ok s.jobRole.points ∧
        s.jobRole = Signal.ofTier title t s.jobRole.points := by
    intro t ht
    rw [Signal.jobRole_of_seniority (firstFilled_of_seniority htitle ht) ht] at hjobRole
    obtain ⟨points, hpoints, hsignal⟩ := Except.map_eq_ok_iff.mp hjobRole
    rw [← hsignal]
    exact ⟨hpoints, rfl⟩
  have hfires : s.jobRole ≠ {} ↔ ∃ t, Signal.seniority? title = some t := by
    cases hseniority : Signal.seniority? title with
    | none =>
        rw [jobRole_of_none htitle hseniority] at hjobRole
        simp [← Except.ok.inj hjobRole]
    | some t =>
        refine iff_of_true ?_ ⟨t, rfl⟩
        rw [(hearned t hseniority).2]
        exact fun h => nomatch congrArg Signal.trace h
  refine ⟨s.jobRole, hjobRole, ?_, ?_, executive_mem_tags_iff hs htags, ?_, ?_, fun t ht => ?_⟩
  · rw [hcomponents]
    rfl
  · rw [htrace]
    exact List.prefix_append _ _
  · rw [hfires, ← Option.ne_none_iff_exists', Ne, Vocabulary.Tier.seniority?_eq_none_iff]
    simp only [not_forall, not_not, exists_prop]
  · intro h
    obtain ⟨t, ht⟩ := hfires.mp h
    exact ⟨t, Vocabulary.Tier.isFirstToldBy_iff.mpr ht⟩
  · obtain ⟨hpoints, hsignal⟩ := hearned t (Vocabulary.Tier.isFirstToldBy_iff.mp ht)
    refine ⟨hpoints, hsignal, ?_, fun u hu htold => ht.share_le hu htold⟩
    rw [hsignal]
    exact Signal.mem_tags_ofTier

open OneTitle in
/-- A title with a term of vice presidents and, behind it, two of executives, one in the other. -/
theorem jobRole_told_coFounder :
    ∃ b, ofLead {} (titled "Ex-VP, Co-Founder") scorecard = .ok b ∧ b.components.jobRole = 45 ∧
      Tag.executive ∈ b.tags := by
  have hscore : ∃ b, ofLead {} (titled "Ex-VP, Co-Founder") scorecard = .ok b :=
    ⟨⟨45, { jobRole := 45 }, [Tag.executive],
      ["Job role 'Ex-VP, Co-Founder' matched executive tier (+45)"]⟩, by decide +kernel⟩
  obtain ⟨b, hb⟩ := hscore
  have hweights : scorecard.weights = some weights := rfl
  have htitle : (titled "Ex-VP, Co-Founder").HasTitle "Ex-VP, Co-Founder" := rfl
  obtain ⟨-, s, -, hpoints, -, htag, -, -, hfirst⟩ := jobRole_told hweights htitle hb
  have htold : (Vocabulary.tiers.head (by decide)).IsToldBy "Ex-VP, Co-Founder" :=
    ⟨"founder", by decide, "ex-vp, co-".toList, [], by decide +kernel,
      fun _ hlast => Option.some.inj hlast ▸ rfl, fun _ hhead => nomatch hhead⟩
  obtain ⟨hearned, -, hexecutive, -⟩ := hfirst _ ⟨htold, [], _, rfl, List.forall_mem_nil _⟩
  have hwhole : scaledPoints weights.jobRole.shown (Vocabulary.tiers.head (by decide)).share =
      .ok 45 := by
    decide +kernel
  rw [hwhole] at hearned
  exact ⟨b, hb, hpoints.trans (Except.ok.inj hearned).symm, htag.mpr (.inl (hexecutive.mpr rfl))⟩

end BaseScore

end Qualify
