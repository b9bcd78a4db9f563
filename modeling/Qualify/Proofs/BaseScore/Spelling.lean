import Qualify.BaseScore
import Qualify.Proofs.Email.Address
import Qualify.Proofs.Value.Entries

/-!
# The spelling of what signals look up

Signals look up a domain, a company size or an industry in lower case and without blanks around it,
and what they print of it they print that way, too.  So two leads have one base score if their
emails, their domains and what they have at the paths of tiers are spelled alike, and nothing that a
signal looks at differs otherwise (`Lead.IsSpelledLike`, `BaseScore.ofLead_eq_of_isSpelledLike`).  A
blank tier is another matter: a search along several paths stops at it, and would go on from an
empty one.
-/

namespace String

variable {s t : String}

/-- The same text, but for the case of its letters and the blanks around it. -/
def IsSpelledLike (s t : String) : Prop := s.trimBlanks.lowerCase = t.trimBlanks.lowerCase

instance (s t : String) : Decidable (s.IsSpelledLike t) :=
  inferInstanceAs (Decidable (s.trimBlanks.lowerCase = t.trimBlanks.lowerCase))

theorem IsSpelledLike.refl (s : String) : s.IsSpelledLike s := Eq.refl _

theorem IsSpelledLike.lower_trim_eq (h : s.IsSpelledLike t) :
    Qualify.Text.lower (Qualify.Text.trim s.toList) =
      Qualify.Text.lower (Qualify.Text.trim t.toList) := by
  have heq := congrArg String.toList h
  rwa [toList_trimBlanks_lowerCase, toList_trimBlanks_lowerCase] at heq

theorem IsSpelledLike.trim_eq_nil_iff (h : s.IsSpelledLike t) :
    Qualify.Text.trim s.toList = [] ↔ Qualify.Text.trim t.toList = [] := by
  have hlower : ∀ cs, Qualify.Text.lower cs = [] ↔ cs = [] := fun _ =>
    Qualify.Text.lowerAfter_eq_nil_iff
  rw [← hlower, h.lower_trim_eq, hlower]

theorem IsSpelledLike.isEmpty_trim_eq (h : s.IsSpelledLike t) :
    (Qualify.Text.trim s.toList).isEmpty = (Qualify.Text.trim t.toList).isEmpty := by
  rw [Bool.eq_iff_iff, List.isEmpty_iff, List.isEmpty_iff, h.trim_eq_nil_iff]

end String

namespace Qualify

namespace Value

variable {v w : Value}

/-- A value that a signal passes over wherever it finds it: it is there, and is no text and no
truth value. -/
def IsInert : Value → Prop
  | .null | .bool _ | .text _ | .incomparable _ => False
  | _ => True

/-- Two values that no signal tells apart. -/
inductive SeenAlike : Value → Value → Prop
  | refl (v : Value) : SeenAlike v v
  | inert {v w : Value} (hv : v.IsInert) (hw : w.IsInert) : SeenAlike v w

/-- Two values that no signal tells apart, or two texts that are spelled alike. -/
inductive SpelledAlike : Value → Value → Prop
  | seen {v w : Value} (h : v.SeenAlike w) : SpelledAlike v w
  | texts {s t : String} (h : s.IsSpelledLike t) : SpelledAlike (.text s) (.text t)

/-- Two values that no signal tells apart, or two texts that are spelled alike and not blank. -/
inductive SameTier : Value → Value → Prop
  | seen {v w : Value} (h : v.SeenAlike w) : SameTier v w
  | texts {s t : String} (h : s.IsSpelledLike t) (hne : Text.trim s.toList ≠ []) :
      SameTier (.text s) (.text t)

theorem not_isInert_null : ¬(Value.null).IsInert := id

theorem not_isInert_bool (b : Bool) : ¬(Value.bool b).IsInert := id

theorem not_isInert_text (s : String) : ¬(Value.text s).IsInert := id

theorem IsInert.isFilled (h : v.IsInert) : v.isFilled = .ok true := by
  cases v with
  | null | bool | text | incomparable => exact False.elim h
  | _ => rfl

/-- What is the same for all inert values is the same for two values that are seen alike. -/
theorem SeenAlike.apply_eq {α : Type} {f : Value → α} {z : α} (h : v.SeenAlike w)
    (hf : ∀ v : Value, v.IsInert → f v = z) : f v = f w := by
  cases h with
  | refl => rfl
  | inert hv hw => rw [hf v hv, hf w hw]

theorem SeenAlike.isFilled (h : v.SeenAlike w) : v.isFilled = w.isFilled :=
  h.apply_eq fun _ hv => hv.isFilled

theorem SameTier.isFilled (h : v.SameTier w) : v.isFilled = w.isFilled := by
  have hfilled : ∀ {s : String}, Text.trim s.toList ≠ [] → (Value.text s).isFilled = .ok true := by
    intro s hne
    refine congrArg Except.ok (bne_iff_ne.mpr ?_)
    rintro rfl
    exact hne rfl
  cases h with
  | seen h => exact h.isFilled
  | texts h hne => rw [hfilled hne, hfilled fun hnil => hne (h.trim_eq_nil_iff.mpr hnil)]

end Value

namespace Vocabulary

/-- The paths at which some signal looks for a tier. -/
def tierPaths : List String := companySizePaths ++ industryPaths

/-- The paths at which some signal looks for anything else. -/
def plainPaths : List String :=
  titlePaths ++ urgencyPaths ++ engagementPaths ++ [competitorFlag, freeMailboxFlag]

end Vocabulary

/-- Two leads whose emails, domains and tiers are spelled alike, and that no signal tells apart
otherwise. -/
structure Lead.IsSpelledLike (a b : Lead) : Prop where
  email : a.email.SpelledAlike b.email
  domain : a.domain.SpelledAlike b.domain
  plain : ∀ p ∈ Vocabulary.plainPaths, Except.Rel Value.SeenAlike (a.resolve p) (b.resolve p)
  tiers : ∀ p ∈ Vocabulary.tierPaths, Except.Rel Value.SameTier (a.resolve p) (b.resolve p)

namespace Signal

variable {a b : Lead} {paths : List String}

/-- Going on from values that are seen alike, where all inert values come to the same. -/
theorem bind_eq_of_seenAlike {α : Type} {x y : Except Failure Value} {f : Value → Except Failure α}
    {z : Except Failure α} (hxy : Except.Rel Value.SeenAlike x y)
    (hf : ∀ v : Value, v.IsInert → f v = z) : (x >>= f) = (y >>= f) :=
  hxy.bind_eq fun _ _ _ _ hvw => hvw.apply_eq hf

theorem bind_eq_of_sameTier {α : Type} {x y : Except Failure Value} {f : Value → Except Failure α}
    {z : Except Failure α} (hxy : Except.Rel Value.SameTier x y)
    (hf : ∀ v : Value, v.IsInert → f v = z)
    (htext : ∀ s t : String, s.IsSpelledLike t → f (.text s) = f (.text t)) :
    (x >>= f) = (y >>= f) := by
  refine hxy.bind_eq fun v w _ _ hvw => ?_
  cases hvw with
  | seen hseen => exact hseen.apply_eq hf
  | texts hst _ => exact htext _ _ hst

theorem firstFilled_plain (h : a.IsSpelledLike b) (hpaths : paths ⊆ Vocabulary.plainPaths) :
    Except.Rel Value.SeenAlike (a.firstFilled paths) (b.firstFilled paths) :=
  Value.firstFilled_rel (.refl .null) (fun _ _ hvw => hvw.isFilled)
    fun p hp => h.plain p (hpaths hp)

theorem firstFilled_tier (h : a.IsSpelledLike b) (hpaths : paths ⊆ Vocabulary.tierPaths) :
    Except.Rel Value.SameTier (a.firstFilled paths) (b.firstFilled paths) :=
  Value.firstFilled_rel (.seen (.refl .null)) (fun _ _ hvw => hvw.isFilled)
    fun p hp => h.tiers p (hpaths hp)

theorem jobRole_eq (h : a.IsSpelledLike b) : jobRole a = jobRole b := by
  funext w
  refine bind_eq_of_seenAlike (z := .ok {}) (firstFilled_plain h (by decide)) fun v hv => ?_
  split
  · exact absurd hv (Value.not_isInert_text _)
  · rfl

theorem level_eq (h : a.IsSpelledLike b) (hpaths : paths ⊆ Vocabulary.plainPaths)
    (weight : Binary64) (levels : Vocabulary.Levels) (label : String) :
    level a weight paths levels label = level b weight paths levels label := by
  refine bind_eq_of_seenAlike (z := .ok {}) (firstFilled_plain h hpaths) fun v hv => ?_
  split
  · exact absurd hv (Value.not_isInert_text _)
  · rfl

/-- A tier is looked up and printed as its key. -/
theorem tier_eq (h : a.IsSpelledLike b) (hpaths : paths ⊆ Vocabulary.tierPaths) (table : PointTable)
    (label : String) : tier a paths table label = tier b paths table label := by
  refine bind_eq_of_sameTier (z := .ok {}) (firstFilled_tier h hpaths) (fun v hv => ?_)
    fun s t hst => ?_
  · split
    · exact absurd hv (Value.not_isInert_text _)
    · rfl
  · have hkey : PointTable.tierKey s = PointTable.tierKey t := hst
    simp only [hkey]

theorem enrichment_eq (h : a.IsSpelledLike b) : enrichment a = enrichment b := by
  funext e
  rw [enrichment, enrichment, tier_eq h (by decide), tier_eq h (by decide)]

theorem isFlagged_eq (h : a.IsSpelledLike b) {path : String}
    (hpath : path ∈ Vocabulary.plainPaths) : isFlagged a path = isFlagged b path := by
  refine bind_eq_of_seenAlike (z := .ok false) (h.plain path hpath) fun v hv => ?_
  split
  · exact absurd hv (Value.not_isInert_bool _)
  · rfl

/-! ### Emails and domains -/

theorem ofText_eq {s t : String} (h : s.IsSpelledLike t) : Address.ofText s = Address.ofText t := by
  rw [Address.ofText, Address.ofText, h.lower_trim_eq]

theorem ofValue_eq {v w : Value} (h : v.SpelledAlike w) :
    Address.ofValue v = Address.ofValue w := by
  cases h with
  | seen hseen =>
      refine hseen.apply_eq (z := {}) fun v hv => ?_
      cases v with
      | text s => exact absurd hv (Value.not_isInert_text s)
      | _ => rfl
  | texts hst => exact ofText_eq hst

theorem domainOf_eq (h : a.IsSpelledLike b) : domainOf a = domainOf b := by
  have hdomain := h.domain
  rw [domainOf, domainOf, ofValue_eq h.email]
  generalize a.domain = v at hdomain ⊢
  generalize b.domain = w at hdomain ⊢
  cases hdomain with
  | seen hseen =>
      cases hseen with
      | refl => rfl
      | inert hv hw =>
          split
          · exact absurd hv (Value.not_isInert_text _)
          · split
            · exact absurd hw (Value.not_isInert_text _)
            · rfl
  | texts hst => simp only [hst.lower_trim_eq, hst.isEmpty_trim_eq]

theorem hasInvalidDomain_eq (h : a.IsSpelledLike b) : hasInvalidDomain a = hasInvalidDomain b := by
  have hemail := h.email
  rw [hasInvalidDomain, hasInvalidDomain, hasInvalidDomain.badDomain, hasInvalidDomain.badDomain,
    domainOf_eq h]
  generalize a.email = v at hemail ⊢
  generalize b.email = w at hemail ⊢
  cases hemail with
  | seen hseen =>
      cases hseen with
      | refl => rfl
      | inert hv hw =>
          split
          · exact absurd hv Value.not_isInert_null
          · exact absurd hv (Value.not_isInert_text _)
          · split
            · exact absurd hw Value.not_isInert_null
            · exact absurd hw (Value.not_isInert_text _)
            · rfl
  | texts hst => simp only [ofText_eq hst, hst.isEmpty_trim_eq]

theorem penalties_eq (h : a.IsSpelledLike b) (tables : DomainTables) (own : List String) :
    penalties tables a own = penalties tables b own := by
  funext p
  rw [penalties, penalties, domainOf_eq h, hasInvalidDomain_eq h, ofValue_eq h.email,
    isFlagged_eq h (by decide), isFlagged_eq h (by decide)]

end Signal

/-- Leads that are spelled alike have one base score, or one failure. -/
theorem BaseScore.ofLead_eq_of_isSpelledLike {a b : Lead} (h : a.IsSpelledLike b)
    (tables : DomainTables) (c : Scorecard) : ofLead tables a c = ofLead tables b c := by
  simp only [ofLead, Signal.jobRole_eq h, Signal.enrichment_eq h, Signal.penalties_eq h,
    Signal.level_eq h (show Vocabulary.urgencyPaths ⊆ Vocabulary.plainPaths by decide),
    Signal.level_eq h (show Vocabulary.engagementPaths ⊆ Vocabulary.plainPaths by decide)]

end Qualify
