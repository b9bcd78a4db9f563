import Mathlib.Data.List.Infix
import Qualify.Proofs.BaseScore
import Qualify.Proofs.Text.Case
import Qualify.Proofs.Text.Pieces

/-!
# Which seniority a title tells

A term of the vocabulary stands in a title where no letter or digit is beside it, so its words are a
block of the title's words.  Where the text around a term has no word of the vocabulary, such a
block lies within the term itself; and a look at all pairs of terms shows that a term of a higher
seniority lies within one of a lower one just once: there is a president in every vice president.
So every term tells its own seniority but that one (`Signal.Surrounds.seniority?_eq`).
-/

namespace Qualify

namespace Signal

open Domain (isLetterOrDigit)

/-! ## Terms in a text -/

/-- Does a letter or digit stand at the end of a text? The flag tells whether one stands before
it. -/
def endsJoined (joined : Bool) (cs : List Char) : Bool :=
  cs.foldl (fun _ c => isLetterOrDigit c) joined

/-- Does a letter or digit stand at the start of a text? -/
def startsJoined (cs : List Char) : Bool := cs.head?.any isLetterOrDigit

variable {term cs : List Char} {joined : Bool}

theorem startsWithTerm_iff :
    startsWithTerm term cs = true ↔ ∃ after, cs = term ++ after ∧ startsJoined after = false := by
  rw [startsWithTerm, Bool.and_eq_true, List.isPrefixOf_iff_prefix, Bool.not_eq_true']
  constructor
  · rintro ⟨⟨after, rfl⟩, h⟩
    rw [List.drop_left] at h
    exact ⟨after, rfl, h⟩
  · rintro ⟨after, rfl, h⟩
    rw [List.drop_left]
    exact ⟨⟨after, rfl⟩, h⟩

/-- A term is in a text where the text goes on on neither side of it. -/
theorem hasTerm_iff (hterm : term ≠ []) :
    hasTerm term joined cs = true ↔ ∃ before after, cs = before ++ term ++ after ∧
      endsJoined joined before = false ∧ startsJoined after = false := by
  induction cs generalizing joined with
  | nil => simp [hasTerm, hterm]
  | cons c cs ih =>
      rw [hasTerm, Bool.or_eq_true, Bool.and_eq_true, Bool.not_eq_true', startsWithTerm_iff, ih]
      constructor
      · rintro (⟨hjoined, after, heq, hafter⟩ | ⟨before, after, rfl, hbefore, hafter⟩)
        · exact ⟨[], after, heq, hjoined, hafter⟩
        · exact ⟨c :: before, after, rfl, hbefore, hafter⟩
      · rintro ⟨before, after, heq, hbefore, hafter⟩
        cases before with
        | nil => exact .inl ⟨hbefore, after, heq, hafter⟩
        | cons b before =>
            obtain ⟨rfl, rfl⟩ := List.cons.inj heq
            exact .inr ⟨before, after, rfl, hbefore, hafter⟩

/-! ## Words -/

/-- The maximal runs of letters and digits. -/
def wordsOf (cs : List Char) : List (List Char) := Text.fieldsBy (fun c => !isLetterOrDigit c) cs

theorem endsJoined_eq_getLast? (cs : List Char) :
    endsJoined false cs = cs.getLast?.any isLetterOrDigit := by
  rcases List.eq_nil_or_concat' cs with rfl | ⟨cs, c, rfl⟩
  · rfl
  · rw [endsJoined, List.foldl_append, List.getLast?_concat]
    rfl

/-- No word of a text goes on from one part to the next where a term stands apart. -/
theorem wordsOf_append {before after : List Char} (hbefore : endsJoined false before = false)
    (hafter : startsJoined after = false) :
    wordsOf (before ++ term ++ after) = wordsOf before ++ wordsOf term ++ wordsOf after := by
  have hleft : ∀ c ∈ before.getLast?, (!isLetterOrDigit c) = true := by
    rw [endsJoined_eq_getLast?, Option.any_eq_false] at hbefore
    intro c hc
    simpa using hbefore c hc
  have hright : ∀ c ∈ after.head?, (!isLetterOrDigit c) = true := by
    rw [startsJoined, Option.any_eq_false] at hafter
    intro c hc
    simpa using hafter c hc
  rw [wordsOf, Text.fieldsBy_append (.inr hright), Text.fieldsBy_append (.inl hleft)]
  rfl

theorem isLetterOrDigit_of_isSmallSigma {c : Char} (h : Text.IsSmallSigma c) :
    isLetterOrDigit c = false := by
  obtain rfl | rfl := h
  · decide
  · decide

theorem isLetterOrDigit_congr {c d : Char} (h : Text.SameButSigma c d) :
    isLetterOrDigit c = isLetterOrDigit d := by
  obtain rfl | ⟨hc, hd⟩ := h
  · rfl
  · rw [isLetterOrDigit_of_isSmallSigma hc, isLetterOrDigit_of_isSmallSigma hd]

section Congr

variable {xs ys : List Char} (h : List.Forall₂ Text.SameButSigma xs ys)
include h

theorem endsJoined_congr (joined : Bool) : endsJoined joined xs = endsJoined joined ys := by
  induction h generalizing joined with
  | nil => rfl
  | cons hcd _ ih =>
      rw [endsJoined, List.foldl_cons, isLetterOrDigit_congr hcd]
      exact ih _

theorem startsJoined_congr : startsJoined xs = startsJoined ys := by
  cases h with
  | nil => rfl
  | cons hcd _ => exact isLetterOrDigit_congr hcd

theorem wordsOf_congr : wordsOf xs = wordsOf ys := by
  refine Text.fieldsBy_congr (h.imp fun c d hcd => hcd.imp_right fun ⟨hc, hd⟩ => ?_)
  rw [isLetterOrDigit_of_isSmallSigma hc, isLetterOrDigit_of_isSmallSigma hd]
  exact ⟨rfl, rfl⟩

end Congr

/-! ## The vocabulary -/

/-- The words of all terms. -/
def vocabularyWords : List (List Char) :=
  Vocabulary.tiers.flatMap fun t => t.terms.flatMap fun term => wordsOf term.toList

/-- The term of a lower seniority in which one of a higher seniority stands. -/
def shadowed : String := "vice president"

/-- The words of a term are no block of the words of a term of a lower seniority, but for one. -/
theorem tiers_apart :
    Vocabulary.tiers.Pairwise fun high low => ∀ term ∈ low.terms, term ≠ shadowed →
      ∀ other ∈ high.terms, ¬wordsOf other.toList <:+: wordsOf term.toList := by
  decide +kernel

/-- The shadowed term is none of the highest seniority. -/
theorem name_ne_of_shadowed :
    ∀ t ∈ Vocabulary.tiers, shadowed ∈ t.terms → t.name ≠ "executive" := by
  decide

theorem not_isSmallSigma_of_mem_terms :
    ∀ t ∈ Vocabulary.tiers, ∀ term ∈ t.terms, ∀ c ∈ term.toList, ¬Text.IsSmallSigma c := by
  have hall : (Vocabulary.tiers.all fun t => t.terms.all fun term =>
      term.toList.all fun c => !decide (Text.IsSmallSigma c)) = true := by
    decide +kernel
  simpa only [List.all_eq_true, Bool.not_eq_true', decide_eq_false_iff_not] using hall

theorem ne_nil_of_mem_terms : ∀ t ∈ Vocabulary.tiers, ∀ term ∈ t.terms, term.toList ≠ [] := by
  decide +kernel

theorem mem_vocabularyWords {t : Vocabulary.Tier} (ht : t ∈ Vocabulary.tiers) {term : String}
    (hterm : term ∈ t.terms) {w : List Char} (hw : w ∈ wordsOf term.toList) :
    w ∈ vocabularyWords :=
  List.mem_flatMap.mpr ⟨t, ht, List.mem_flatMap.mpr ⟨term, hterm, hw⟩⟩

/-! ## Titles -/

/-- A term is spelled in a title in any letter case, with text around it that has no word of the
vocabulary, and neither letter nor digit is beside the term. -/
structure Surrounds (term before spelling after : String) : Prop where
  spelled : spelling.lowerCase = term
  apartBefore : endsJoined false (Text.lower before.toList) = false
  apartAfter : startsJoined (Text.lower after.toList) = false
  foreignBefore : ∀ w ∈ wordsOf (Text.lower before.toList), w ∉ vocabularyWords
  foreignAfter : ∀ w ∈ wordsOf (Text.lower after.toList), w ∉ vocabularyWords

/-- A title in lower case has the term in it, between texts without words of the vocabulary. -/
structure HasAlone (term : String) (cs xs ys : List Char) : Prop where
  eq_append : cs = xs ++ term.toList ++ ys
  apartBefore : endsJoined false xs = false
  apartAfter : startsJoined ys = false
  foreignBefore : ∀ w ∈ wordsOf xs, w ∉ vocabularyWords
  foreignAfter : ∀ w ∈ wordsOf ys, w ∉ vocabularyWords

section Titles

variable {tier : Vocabulary.Tier} {before spelling after : String} {term other : String}
  {cs xs ys : List Char}

theorem Surrounds.exists_hasAlone (htier : tier ∈ Vocabulary.tiers) (hterm : term ∈ tier.terms)
    (h : Surrounds term before spelling after) :
    ∃ xs ys, HasAlone term (Text.lower (before ++ spelling ++ after).toList) xs ys := by
  have hspelled : Text.lower spelling.toList = term.toList := by
    rw [← h.spelled, String.lowerCase, String.toList_ofList]
  have hsigma : ∀ c ∈ Text.lower spelling.toList, ¬Text.IsSmallSigma c := by
    rw [hspelled]
    exact not_isSmallSigma_of_mem_terms tier htier term hterm
  -- the parts in lower case, with their neighbours at hand and without
  let xs := Text.lowerBetween [] before.toList (spelling.toList ++ after.toList)
  let ys := Text.lowerBetween (spelling.toList.reverse ++ before.toList.reverse) after.toList []
  have hxs : List.Forall₂ Text.SameButSigma xs (Text.lower before.toList) :=
    Text.forall₂_lower _ _ _
  have hys : List.Forall₂ Text.SameButSigma ys (Text.lower after.toList) := Text.forall₂_lower _ _ _
  refine ⟨xs, ys, ?_⟩
  constructor
  case eq_append =>
    rw [String.toList_append, String.toList_append, List.append_assoc, Text.lower,
      Text.lowerAfter_append, Text.lowerAfter_append, Text.lowerBetween_eq_lower hsigma, hspelled,
      Text.lowerAfter_eq_lowerBetween, List.append_nil, ← List.append_assoc]
  case apartBefore => exact (endsJoined_congr hxs false).trans h.apartBefore
  case apartAfter => exact (startsJoined_congr hys).trans h.apartAfter
  case foreignBefore => exact wordsOf_congr hxs ▸ h.foreignBefore
  case foreignAfter => exact wordsOf_congr hys ▸ h.foreignAfter

theorem HasAlone.hasTerm (h : HasAlone term cs xs ys) (hne : term.toList ≠ []) :
    hasTerm term.toList false cs = true :=
  (hasTerm_iff hne).mpr ⟨xs, ys, h.eq_append, h.apartBefore, h.apartAfter⟩

/-- Whatever term of the vocabulary is in such a title lies within the term that is in it alone. -/
theorem HasAlone.isInfix_of_hasTerm (h : HasAlone term cs xs ys) (htier : tier ∈ Vocabulary.tiers)
    (hother : other ∈ tier.terms) (hhas : Signal.hasTerm other.toList false cs = true) :
    wordsOf other.toList <:+: wordsOf term.toList := by
  have hforeign : ∀ w ∈ wordsOf other.toList, w ∈ vocabularyWords :=
    fun w hw => mem_vocabularyWords htier hother hw
  obtain ⟨before, after, heq, hbefore, hafter⟩ :=
    (hasTerm_iff (ne_nil_of_mem_terms tier htier other hother)).mp hhas
  have hblock : wordsOf other.toList <:+: wordsOf cs := by
    rw [heq, wordsOf_append hbefore hafter]
    exact List.infix_append _ _ _
  rw [h.eq_append, wordsOf_append h.apartBefore h.apartAfter] at hblock
  have hleft : wordsOf other.toList <:+: wordsOf xs ++ wordsOf term.toList :=
    hblock.of_append_left fun w hw hmem => h.foreignAfter w hmem (hforeign w hw)
  exact hleft.of_append_right fun w hw hmem => h.foreignBefore w hmem (hforeign w hw)

/-- A term that no term of a higher seniority lies within tells its own seniority. -/
theorem HasAlone.find?_tiers (h : HasAlone term cs xs ys) (htier : tier ∈ Vocabulary.tiers)
    (hterm : term ∈ tier.terms) (hne : term ≠ shadowed) :
    Vocabulary.tiers.find? (fun t => t.terms.any fun s => Signal.hasTerm s.toList false cs) =
      some tier := by
  have hown := h.hasTerm (ne_nil_of_mem_terms tier htier term hterm)
  obtain ⟨high, low, hsplit⟩ := List.append_of_mem htier
  have hapart := tiers_apart
  rw [hsplit, List.pairwise_append] at hapart
  rw [List.find?_eq_some_iff_append]
  refine ⟨List.any_eq_true.mpr ⟨term, hterm, hown⟩, high, low, hsplit, fun t ht => ?_⟩
  rw [Bool.not_eq_true', List.any_eq_false]
  intro other hother hhas
  have hmem : t ∈ Vocabulary.tiers := by
    rw [hsplit]
    exact List.mem_append_left _ ht
  exact hapart.2.2 t ht tier List.mem_cons_self term hterm hne other hother
    (h.isInfix_of_hasTerm hmem hother hhas)

/-- A title with the term that is shadowed tells the highest seniority. -/
theorem HasAlone.find?_tiers_shadowed (h : HasAlone shadowed cs xs ys) :
    Vocabulary.tiers.find? (fun t => t.terms.any fun s => Signal.hasTerm s.toList false cs) =
      Vocabulary.tiers.head? := by
  have hpresident : Signal.hasTerm "president".toList false cs = true := by
    refine (hasTerm_iff (by decide)).mpr ⟨xs ++ "vice ".toList, ys, ?_, ?_, h.apartAfter⟩
    · have hterm : shadowed.toList = "vice ".toList ++ "president".toList := by decide
      rw [h.eq_append, hterm]
      simp only [List.append_assoc]
    · rw [endsJoined, List.foldl_append]
      rfl
  exact List.find?_cons_of_pos (List.any_eq_true.mpr ⟨"president", by decide, hpresident⟩)

/-- Every term tells its own seniority in such a title, but for the one that is shadowed: it tells
the highest. -/
theorem Surrounds.seniority?_eq (htier : tier ∈ Vocabulary.tiers) (hterm : term ∈ tier.terms)
    (h : Surrounds term before spelling after) :
    seniority? (before ++ spelling ++ after) =
      if term = shadowed then Vocabulary.tiers.head? else some tier := by
  obtain ⟨xs, ys, halone⟩ := h.exists_hasAlone htier hterm
  split
  · case isTrue hshadowed =>
      subst hshadowed
      exact halone.find?_tiers_shadowed
  · case isFalse hne => exact halone.find?_tiers htier hterm hne

end Titles

/-! ## The signal -/

/-- What a title comes to that tells a seniority. -/
def ofTier (title : String) (tier : Vocabulary.Tier) (points : Int) : Signal where
  points := points
  tags := if tier.name = "executive" then [Tag.executive] else []
  trace := ["Job role '" ++ title ++ "' matched " ++ tier.name ++ " tier (" ++
    signedText points ++ ")"]

variable {lead : Lead} {title : String} {w : Weights} {heard : Vocabulary.Tier}

theorem jobRole_of_seniority
    (htitle : lead.firstFilled Vocabulary.titlePaths = .ok (.text title))
    (hheard : seniority? title = some heard) :
    jobRole lead w = ofTier title heard <$> scaledPoints w.jobRole.shown heard.share := by
  have hfound : (Inquiry.title w).found? lead = some (title, heard) :=
    Inquiry.found?_eq_some_iff.mpr ⟨htitle, hheard⟩
  rw [jobRole_eq_signal, Inquiry.signal_of_found hfound]
  rfl

theorem mem_tags_ofTier {points : Int} :
    Tag.executive ∈ (ofTier title heard points).tags ↔ heard.name = "executive" := by
  unfold ofTier
  by_cases h : heard.name = "executive"
  · simp [h]
  · simp [h]

end Signal

namespace BaseScore

variable {tables : DomainTables} {lead : Lead} {c : Scorecard} {w : Weights} {b : BaseScore}

/-- The tag of executives is that of the job role, unless a tier has it for its key. -/
theorem executive_mem_tags_iff {s : Signals} (hs : s.OfLead tables lead c)
    (htags : b.tags = distinctTags (s.toList.flatMap Signal.tags)) :
    Tag.executive ∈ b.tags ↔
      Tag.executive ∈ s.jobRole.tags ∨ lead.IsEnrichedBy c Tag.executive := by
  have hnone : ∀ {α : Type} {o : Option α} {signal : α → Except Failure Signal} {r : Signal},
      (∀ a r, signal a = .ok r → Tag.executive ∉ r.tags) → Signal.ofSection o signal = .ok r →
        Tag.executive ∉ r.tags :=
    fun hsignal hr => Signal.ofSection_induction (P := fun r => Tag.executive ∉ r.tags)
      List.not_mem_nil (fun a r _ => hsignal a r) hr
  have hlevel : ∀ {weight paths levels label} (r : Signal),
      Signal.level lead weight paths levels label = .ok r → Tag.executive ∉ r.tags := by
    intro weight paths levels label r hr
    rw [Signal.tags_level hr]
    exact List.not_mem_nil
  have hurgency := hnone (fun _ r hr => hlevel r hr) hs.urgency
  have hengagement := hnone (fun _ r hr => hlevel r hr) hs.engagement
  have hnegative : Tag.executive ∉ s.negative.tags :=
    hnone (fun _ r hr hmem => absurd (Signal.mem_penaltyTags hr hmem) (by decide)) hs.negative
  have henrichment := mem_enrichmentTags hs (t := Tag.executive) (by decide)
  rw [htags, distinctTags, List.mem_eraseDups]
  simp [Signals.toList, hurgency, hengagement, hnegative, henrichment]

/-- A title of some seniority earns its share of the weight, and the tag of executives if they have
it. -/
theorem ofLead_of_seniority {title : String} {heard : Vocabulary.Tier}
    (hweights : c.weights = some w)
    (htitle : lead.firstFilled Vocabulary.titlePaths = .ok (.text title))
    (hheard : Signal.seniority? title = some heard) (hb : ofLead tables lead c = .ok b) :
    scaledPoints w.jobRole.shown heard.share = .ok b.components.jobRole ∧
      (Tag.executive ∈ b.tags ↔
        heard.name = "executive" ∨ lead.IsEnrichedBy c Tag.executive) := by
  obtain ⟨s, hs, -, hcomponents, htags, -⟩ := ofLead_eq_ok_iff.mp hb
  have hjobRole := hs.jobRole
  rw [hweights, Signal.ofSection, Signal.jobRole_of_seniority htitle hheard] at hjobRole
  obtain ⟨points, hpoints, hearned⟩ := Except.map_eq_ok_iff.mp hjobRole
  constructor
  · rw [hpoints, hcomponents, Signals.components, ← hearned]
    rfl
  · rw [executive_mem_tags_iff hs htags, ← hearned, Signal.mem_tags_ofTier]

/-- A title in which a term stands alone earns the term's own share of the weight, whatever the term
but for the one that is shadowed, which earns the highest share.  So a base score has the points of
the term's own tier, and the tag of executives just if that tier is theirs, exactly when the term is
not the shadowed one and no tier of the enrichment lends its key for that tag. -/
theorem earns_own_tier_iff {tier : Vocabulary.Tier} {term before spelling after : String}
    (hweights : c.weights = some w)
    (htitle : lead.firstFilled Vocabulary.titlePaths = .ok (.text (before ++ spelling ++ after)))
    (htier : tier ∈ Vocabulary.tiers) (hterm : term ∈ tier.terms)
    (hsurrounds : Signal.Surrounds term before spelling after) :
    (∃ heard, (if term = Signal.shadowed then Vocabulary.tiers.head? else some tier) = some heard ∧
      Signal.jobRole lead w = Signal.ofTier (before ++ spelling ++ after) heard <$>
        scaledPoints w.jobRole.shown heard.share) ∧
    ∀ b, ofLead tables lead c = .ok b →
      ((scaledPoints w.jobRole.shown tier.share = .ok b.components.jobRole ∧
          (Tag.executive ∈ b.tags ↔ tier.name = "executive")) ↔
        term ≠ Signal.shadowed ∧
          (tier.name = "executive" ∨ ¬lead.IsEnrichedBy c Tag.executive)) := by
  have hseniority := hsurrounds.seniority?_eq htier hterm
  obtain ⟨heard, hheard⟩ : ∃ heard,
      (if term = Signal.shadowed then Vocabulary.tiers.head? else some tier) = some heard := by
    split
    · exact ⟨_, rfl⟩
    · exact ⟨_, rfl⟩
  have htold := hseniority.trans hheard
  refine ⟨⟨heard, hheard, Signal.jobRole_of_seniority htitle htold⟩, fun b hb => ?_⟩
  obtain ⟨hpoints, htag⟩ := ofLead_of_seniority hweights htitle htold hb
  rw [htag]
  by_cases hshadowed : term = Signal.shadowed
  · have hname := Signal.name_ne_of_shadowed tier htier (hshadowed ▸ hterm)
    have hhighest : heard.name = "executive" := by
      rw [if_pos hshadowed] at hheard
      cases hheard
      rfl
    constructor
    · rintro ⟨-, hown⟩
      exact absurd (hown.mp (.inl hhighest)) hname
    · rintro ⟨hne, -⟩
      exact absurd hshadowed hne
  · rw [if_neg hshadowed] at hheard
    obtain rfl : tier = heard := Option.some.inj hheard
    constructor
    · rintro ⟨-, hown⟩
      refine ⟨hshadowed, ?_⟩
      by_cases henriched : lead.IsEnrichedBy c Tag.executive
      · exact .inl (hown.mp (.inr henriched))
      · exact .inr henriched
    · rintro ⟨-, hname | hnot⟩
      · exact ⟨hpoints, fun _ => hname, .inl⟩
      · exact ⟨hpoints, fun h => h.resolve_right hnot, .inl⟩

namespace OneTitle

def weights : Weights where
  jobRole := .ofInt 45
  urgency := .zero
  engagement := .zero
  nonnegative := by decide +kernel

def scorecard : Scorecard := { weights := some weights }

/-- A lead of which only the title is known. -/
def titled (title : String) : Lead :=
  .ofEntries [] [(.text "fields", .map [(.text "title", .text title)])]

/-- The tier of vice presidents. -/
def vicePresidents : Vocabulary.Tier where
  name := "vice_president"
  share := hundredths 85
  terms := ["vp", "svp", "evp", "vice president", "head of", "general manager"]

theorem vicePresidents_mem : vicePresidents ∈ Vocabulary.tiers := .tail _ (.head _)

theorem scaledPoints_vicePresidents :
    scaledPoints weights.jobRole.shown vicePresidents.share = .ok 38 := by
  decide +kernel

end OneTitle

open OneTitle in
/-- A senior VP earns what vice presidents do. -/
theorem earns_own_tier_vp :
    ∃ b, ofLead {} (titled ("Senior " ++ "VP" ++ ", Sales")) scorecard = .ok b ∧
      b.components.jobRole = 38 ∧ Tag.executive ∉ b.tags := by
  have hsurrounds : Signal.Surrounds "vp" "Senior " "VP" ", Sales" := by
    constructor <;> decide +kernel
  have hscore : ∃ b, ofLead {} (titled ("Senior " ++ "VP" ++ ", Sales")) scorecard = .ok b :=
    ⟨⟨38, { jobRole := 38 }, [],
      ["Job role 'Senior VP, Sales' matched vice_president tier (+38)"]⟩, by decide +kernel⟩
  obtain ⟨b, hb⟩ := hscore
  have htitle : (titled ("Senior " ++ "VP" ++ ", Sales")).firstFilled Vocabulary.titlePaths =
      .ok (.text ("Senior " ++ "VP" ++ ", Sales")) := rfl
  have hweights : scorecard.weights = some weights := rfl
  obtain ⟨-, hearns⟩ := earns_own_tier_iff hweights htitle vicePresidents_mem (by decide) hsurrounds
  have hnotEnriched :
      ¬(titled ("Senior " ++ "VP" ++ ", Sales")).IsEnrichedBy scorecard Tag.executive := by
    rintro ⟨_, he, -⟩
    cases he
  obtain ⟨hpoints, htag⟩ := (hearns b hb).mpr ⟨by decide, .inr hnotEnriched⟩
  rw [scaledPoints_vicePresidents] at hpoints
  exact ⟨b, hb, (Except.ok.inj hpoints).symm, fun hmem => absurd (htag.mp hmem) (by decide)⟩

open OneTitle in
/-- A vice president does not: the title has a president in it, and earns what executives do. -/
theorem vicePresident_earns_other_tier :
    "vice president" ∈ vicePresidents.terms ∧
      Signal.Surrounds "vice president" "" "Vice President" "" ∧
      ∃ b, ofLead {} (titled ("" ++ "Vice President" ++ "")) scorecard = .ok b ∧
        scaledPoints weights.jobRole.shown vicePresidents.share ≠ .ok b.components.jobRole ∧
        Tag.executive ∈ b.tags := by
  refine ⟨by decide, ?_, ⟨45, { jobRole := 45 }, [Tag.executive],
    ["Job role 'Vice President' matched executive tier (+45)"]⟩, ?_, ?_, by decide⟩
  · constructor <;> decide +kernel
  · decide +kernel
  · rw [scaledPoints_vicePresidents]
    decide

end BaseScore

end Qualify
