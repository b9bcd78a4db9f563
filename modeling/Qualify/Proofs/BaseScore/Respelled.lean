import Qualify.Proofs.BaseScore.Dependence
import Qualify.Proofs.Scorecard.Spelling

/-!
# Scores do not depend on spelling

A base score depends on a lead's email, its domain and its tiers only as they are in lower case and
without blanks around them, and likewise on the tiers and competitors' domains that a scorecard
lists.  So two leads that differ in the spelling of these have one score or one failure, with one
trace, and so has a lead under two scorecards that do (`BaseScore.ofValue_respelled`).
-/

namespace Qualify

namespace Vocabulary

/-- The keys under which tiers stand. -/
def tierKeys : List String := ["company_size", "companySize", "industry"]

theorem keysOf_plainPath :
    ∀ p ∈ plainPaths, (∃ k ∈ topKeys, keysOf p = [k]) ∨
      (∃ k ∈ fieldKeys, k ∉ tierKeys ∧ keysOf p = ["fields", k]) ∨
      ∃ k ∈ enrichmentKeys, k ∉ tierKeys ∧ keysOf p = ["fields", "enrichment", k] := by
  decide +kernel

theorem keysOf_tierPath :
    ∀ p ∈ tierPaths, (∃ k ∈ fieldKeys, keysOf p = ["fields", k]) ∨
      ∃ k ∈ enrichmentKeys, keysOf p = ["fields", "enrichment", k] := by
  decide +kernel

end Vocabulary

namespace Lead

variable {a b : Lead} {v w : Value} {key : String}

/-- Two values that are seen alike, or, under the key of a tier, are one tier. -/
def AlikeUnder (key : String) (v w : Value) : Prop :=
  v.SeenAlike w ∨ key ∈ Vocabulary.tierKeys ∧ v.SameTier w

/-- Two leads that differ, where any signal looks, in the spelling of their email, their domain and
their tiers only. -/
structure DiffersInSpelling (a b : Lead) : Prop where
  email : a.email.SpelledAlike b.email
  domain : a.domain.SpelledAlike b.domain
  extra : ∀ k ∈ Vocabulary.topKeys, (a.extraEntry k).SeenAlike (b.extraEntry k)
  fields : ∀ k ∈ Vocabulary.fieldKeys, AlikeUnder k (a.fieldEntry k) (b.fieldEntry k)
  enrichment : ∀ k ∈ Vocabulary.enrichmentKeys,
    AlikeUnder k (a.enrichmentEntry k) (b.enrichmentEntry k)

theorem AlikeUnder.sameTier (h : AlikeUnder key v w) : v.SameTier w :=
  h.elim .seen And.right

theorem AlikeUnder.seenAlike (h : AlikeUnder key v w) (hkey : key ∉ Vocabulary.tierKeys) :
    v.SeenAlike w :=
  h.resolve_right fun htier => hkey htier.1

/-- Leads that differ in spelling are spelled alike at the paths of signals. -/
theorem DiffersInSpelling.isSpelledLike (h : a.DiffersInSpelling b) : a.IsSpelledLike b where
  email := h.email
  domain := h.domain
  plain := by
    intro p hp
    have hsignal : Vocabulary.plainPaths ⊆ Vocabulary.signalPaths := by decide
    rw [resolve_eq_entries (hsignal hp), resolve_eq_entries (hsignal hp)]
    refine .ok ?_
    obtain ⟨k, hk, hkeys⟩ | ⟨k, hk, hplain, hkeys⟩ | ⟨k, hk, hplain, hkeys⟩ :=
      Vocabulary.keysOf_plainPath p hp
    · rw [hkeys, entries_top hk, entries_top hk]
      exact h.extra k hk
    · rw [hkeys, entries_fields, entries_fields]
      exact (h.fields k hk).seenAlike hplain
    · rw [hkeys, entries_enrichment, entries_enrichment]
      exact (h.enrichment k hk).seenAlike hplain
  tiers := by
    intro p hp
    have hsignal : Vocabulary.tierPaths ⊆ Vocabulary.signalPaths := by decide
    rw [resolve_eq_entries (hsignal hp), resolve_eq_entries (hsignal hp)]
    refine .ok ?_
    obtain ⟨k, hk, hkeys⟩ | ⟨k, hk, hkeys⟩ := Vocabulary.keysOf_tierPath p hp
    · rw [hkeys, entries_fields, entries_fields]
      exact (h.fields k hk).sameTier
    · rw [hkeys, entries_enrichment, entries_enrichment]
      exact (h.enrichment k hk).sameTier

end Lead

namespace BaseScore

/-- Two leads that differ in the spelling of their email, their domain and their tiers have one base
score or one failure under every scorecard.  So has every lead under two descriptions of a scorecard
that differ in the spelling of tiers and of competitors' domains. -/
theorem ofValue_respelled (tables : DomainTables) (cells : Cells) (v : Value) :
    (∀ cells' w a b, Lead.ofValue? cells v = some a → Lead.ofValue? cells' w = some b →
      a.DiffersInSpelling b → ∀ c, ofValue tables cells v c = ofValue tables cells' w c) ∧
    ∀ x y, Scorecard.DifferInSpelling x y →
      ofValue tables cells v ((Scorecard.ofValue? x).getD {}) =
        ofValue tables cells v ((Scorecard.ofValue? y).getD {}) := by
  refine ⟨fun cells' w a b ha hb h c => ?_, fun x y h => ?_⟩
  · rw [ofValue, ofValue, ha, hb]
    exact ofLead_eq_of_isSpelledLike h.isSpelledLike tables c
  · rw [Scorecard.ofValue?_eq_of_differInSpelling h]

/-! Two spellings of a lead and of a scorecard. -/

namespace TwoSpellings

def shouted : List (Value × Value) :=
  [(.text "email", .text " PAT@GMAIL.COM"), (.text "domain", .text "Acme.IO "),
    (.text "fields", .map [(.text "industry", .text "\tTech")])]

def written : List (Value × Value) :=
  [(.text "email", .text "pat@gmail.com"), (.text "domain", .text "acme.io"),
    (.text "fields", .map [(.text "industry", .text "tech")])]

theorem differsInSpelling :
    (Lead.ofEntries [] shouted).DiffersInSpelling (Lead.ofEntries [] written) where
  email := .texts (by decide +kernel)
  domain := .texts (by decide +kernel)
  extra := by
    intro k hk
    fin_cases hk <;> exact .refl _
  fields := by
    intro k hk
    by_cases hkey : k = "industry"
    · cases hkey
      exact .inr ⟨by decide, .texts (by decide +kernel) (by decide +kernel)⟩
    · fin_cases hk <;> first | exact .inl (.refl _) | exact absurd rfl hkey
  enrichment := by
    intro k hk
    fin_cases hk <;> exact .inl (.refl _)

/-- Data of a scorecard with points by industry and with the domains of competitors. -/
def scorecard (points : List (Value × Value)) (domains : List Value) : Value :=
  .map [(.text "enrichment", .map [(.text "industry", .map points)]),
    (.text "competitorDomains", .list domains)]

def capitalized : List (Value × Value) := [(.text "Tech", .int 5), (.text "Retail", .int 2)]

def lowered : List (Value × Value) := [(.text "tech ", .int 5), (.text "retail", .int 2)]

theorem differInSpelling : Scorecard.DifferInSpelling (scorecard capitalized [.text "ACME.io"])
    (scorecard lowered [.text "acme.io"]) := by
  have hpoints : Check.SameTiers (.map capitalized) (.map lowered) :=
    .intro
      (.cons ⟨.texts (by decide +kernel), rfl⟩ (.cons ⟨.texts (by decide +kernel), rfl⟩ .nil))
      (Check.hasDistinctKeys_of_texts ["Tech", "Retail"] (by decide) rfl)
      (Check.hasDistinctKeys_of_texts ["tech ", "retail"] (by decide) rfl)
  have henrichment : Check.SameEnrichment (.map [(.text "industry", .map capitalized)])
      (.map [(.text "industry", .map lowered)]) :=
    .intro (.cons ⟨rfl, .inr ⟨⟨"industry", by decide, rfl⟩, hpoints⟩⟩ .nil)
  have hdomains : Check.SameDomains (.list [.text "ACME.io"]) (.list [.text "acme.io"]) :=
    ⟨_, _, rfl, rfl, .cons (.texts (by decide +kernel)) .nil⟩
  exact .maps (.cons ⟨rfl, .inr (.enrichment henrichment)⟩
    (.cons ⟨rfl, .inr (.domains (by decide) hdomains)⟩ .nil))

end TwoSpellings

open TwoSpellings in
theorem ofValue_respelled_twoSpellings :
    (∀ c, ofValue {} [] (.map shouted) c = ofValue {} [] (.map written) c) ∧
      ofValue {} [] (.map written)
          ((Scorecard.ofValue? (scorecard capitalized [.text "ACME.io"])).getD {}) =
        ofValue {} [] (.map written)
          ((Scorecard.ofValue? (scorecard lowered [.text "acme.io"])).getD {}) :=
  ⟨(ofValue_respelled {} [] (.map shouted)).1 [] (.map written) _ _ rfl rfl differsInSpelling,
    (ofValue_respelled {} [] (.map written)).2 _ _ differInSpelling⟩

/-! Where a key of a table is a row of bytes, it may be read as another key is. -/

namespace BytesKey

/-- Points for three keys, two of them texts that are spelled alike and the third one a row of bytes
that encodes one of these. -/
def points (first second : String) : List (Value × Value) :=
  [(.text first, .int 1), (.text second, .int 2), (.bytes [0x61], .int 3)]

def scorecard (points : List (Value × Value)) : Scorecard :=
  (Scorecard.ofValue? (.map [(.text "enrichment", .map [(.text "industry", .map points)])])).getD {}

def lead : Value := .map [(.text "fields", .map [(.text "industry", .text "a")])]

end BytesKey

open BytesKey in
/-- Tables with the same points for keys that are spelled alike, in one order, are read as two
tables. -/
theorem ofValue_bytesKey :
    List.Forall₂ (fun e f =>
        (e.1 = f.1 ∨ ∃ s t, e.1 = .text s ∧ f.1 = .text t ∧ s.IsSpelledLike t) ∧ e.2 = f.2)
      (points "A" "a") (points "a" "A") ∧
    ((points "A" "a").map Prod.fst).Nodup ∧ ((points "a" "A").map Prod.fst).Nodup ∧
    ofValue {} [] lead (scorecard (points "A" "a")) =
      .ok ⟨3, { enrichment := 3 }, [Tag.enriched, "a"], ["Industry 'a' (+3)"]⟩ ∧
    ofValue {} [] lead (scorecard (points "a" "A")) =
      .ok ⟨2, { enrichment := 2 }, [Tag.enriched, "a"], ["Industry 'a' (+2)"]⟩ := by
  refine ⟨?_, ?_, ?_, by decide +kernel, by decide +kernel⟩
  · exact .cons ⟨.inr ⟨"A", "a", rfl, rfl, by decide +kernel⟩, rfl⟩
      (.cons ⟨.inr ⟨"a", "A", rfl, rfl, by decide +kernel⟩, rfl⟩ (.cons ⟨.inl rfl, rfl⟩ .nil))
  · simp [points]
  · simp [points]

end BaseScore

end Qualify
