import Qualify.Proofs.BaseScore.Range
import Qualify.Proofs.Scorecard

/-!
# The greatest and the least lead

Two families of leads show that nothing in `Scorecard.IsScorable` can be spared.  The leads of one
take all of every weight and no penalty, the leads of the other take every penalty and no weight,
and both may name any tiers on top of that.
-/

namespace Qualify

/-! ## What signals come to at their fullest -/

namespace Signal

variable {lead : Lead} {x : Binary64} {s : Signal} {paths : List String} {label : String}

/-- A signal takes all that a number is worth. -/
def TakesAllOf (x : Binary64) (s : Signal) : Prop := x.HasPoints ∧ s.points = x.points

theorem takesAllOf_of_found {α : Type} {i : Inquiry α} {text : String} {a : α}
    (hfound : i.found? lead = some (text, a))
    (hworth : ∀ p, i.worth a = .ok p → x.toPoints = .ok p) (h : i.signal lead = .ok s) :
    s.TakesAllOf x := by
  rw [Inquiry.signal_of_found hfound] at h
  obtain ⟨p, hp, rfl⟩ := Except.map_eq_ok_iff.mp h
  have hpoints := hworth p hp
  exact ⟨⟨p, hpoints⟩, (Binary64.points_eq hpoints).symm⟩

theorem takesAllOf_of_jobRole {w : Weights}
    (hname : lead.firstFilled Vocabulary.titlePaths = .ok (.text "ceo"))
    (h : jobRole lead w = .ok s) : s.TakesAllOf w.jobRole := by
  have hshare : (seniority? "ceo").map Vocabulary.Tier.share = some (hundredths 100) := by
    decide +kernel
  obtain ⟨tier, htier, hshare⟩ := Option.map_eq_some_iff.mp hshare
  rw [jobRole_eq_signal] at h
  refine takesAllOf_of_found (Inquiry.found?_eq_some_iff.mpr ⟨hname, htier⟩) (fun p hp => ?_) h
  simp only [Inquiry.title, hshare] at hp
  exact Binary64.scaledPoints_whole_eq_ok_iff.mp hp

theorem takesAllOf_of_level {levels : Vocabulary.Levels}
    (hname : lead.firstFilled paths = .ok (.text "high"))
    (hlevel : levels.lookup (normalizedLevel "high") = some (hundredths 100))
    (h : level lead x paths levels label = .ok s) : s.TakesAllOf x := by
  rw [level_eq_signal] at h
  exact takesAllOf_of_found (Inquiry.found?_eq_some_iff.mpr ⟨hname, hlevel⟩)
    (fun _ => Binary64.scaledPoints_whole_eq_ok_iff.mp) h

theorem takesAllOf_of_tier {table : PointTable} {name : String}
    (hname : lead.firstFilled paths = .ok (.text name))
    (hx : table.get? (PointTable.tierKey name) = some x)
    (h : tier lead paths table label = .ok s) : s.TakesAllOf x := by
  rw [tier_eq_signal] at h
  exact takesAllOf_of_found (Inquiry.found?_eq_some_iff.mpr ⟨hname, hx⟩) (fun _ => id) h

theorem penalty_fired {tag line : String} (h : penalty true x tag line = .ok s) :
    x.HasPoints ∧ s.points = -|x.points| := by
  obtain ⟨hsilent, -⟩ | ⟨-, p, hp, rfl⟩ := penalty_eq_ok_iff.mp h
  · exact nomatch hsilent
  · have hpoints : x.HasPoints := Binary64.hasPoints_of_abs ⟨p, hp⟩
    have habs : p = |x.points| := by
      rw [Binary64.toPoints_abs hpoints.toPoints_eq] at hp
      exact (Except.ok.inj hp).symm
    exact ⟨hpoints, by rw [habs]⟩

theorem penalties_fired {tables : DomainTables} {own : List String} {p : Penalties}
    (hcompetitor : isFlagged lead Vocabulary.competitorFlag = .ok true)
    (hfreeMailbox : isFlagged lead Vocabulary.freeMailboxFlag = .ok true)
    (hdomain : hasInvalidDomain lead = true)
    (hspam : isSpam (Address.ofValue lead.email) tables.disposable = true)
    (h : penalties tables lead own p = .ok s) :
    (∀ x ∈ [p.competitor, p.freeEmail, p.invalidDomain, p.spam], x.HasPoints) ∧
      s.points = -p.points := by
  obtain ⟨f, ⟨⟨_, hflag, h₁⟩, ⟨_, hmailbox, h₂⟩, h₃, h₄⟩, rfl⟩ := penalties_eq_ok_iff.mp h
  cases hcompetitor.symm.trans hflag
  cases hfreeMailbox.symm.trans hmailbox
  rw [Bool.or_true] at h₁ h₂
  rw [hdomain] at h₃
  rw [hspam] at h₄
  obtain ⟨hpoints₁, h₁⟩ := penalty_fired h₁
  obtain ⟨hpoints₂, h₂⟩ := penalty_fired h₂
  obtain ⟨hpoints₃, h₃⟩ := penalty_fired h₃
  obtain ⟨hpoints₄, h₄⟩ := penalty_fired h₄
  refine ⟨by simp [hpoints₁, hpoints₂, hpoints₃, hpoints₄], ?_⟩
  simp only [Fined.total, Signal.and, h₁, h₂, h₃, h₄, Penalties.points]
  ring

theorem points_of_silent (h : (.ok {} : Except Failure Signal) = .ok s) : s.points = 0 := by
  cases h
  rfl

theorem points_of_jobRole_silent {w : Weights}
    (hname : lead.firstFilled Vocabulary.titlePaths = .ok .null) (h : jobRole lead w = .ok s) :
    s.points = 0 := by
  rw [jobRole, hname] at h
  exact points_of_silent h

theorem points_of_level_silent {levels : Vocabulary.Levels}
    (hname : lead.firstFilled paths = .ok .null) (h : level lead x paths levels label = .ok s) :
    s.points = 0 := by
  rw [level, hname] at h
  exact points_of_silent h

end Signal

/-! ## The leads -/

/-- A text of a document, null if there is none. -/
def Json.optionalText : Option String → Json
  | none => .null
  | some s => .text s

/-- What a lead says of itself that its base score depends on. -/
structure Probe where
  email : Option String := none
  title : Option String := none
  level : Option String := none
  flagged : Bool := false
  size : Option String
  industry : Option String

namespace Probe

open Json (optionalText)

/-- The lead as a document. -/
def entries (p : Probe) : List (String × Json) :=
  [("email", optionalText p.email), ("fields", .object [("title", optionalText p.title),
    ("urgency", optionalText p.level), ("engagement", optionalText p.level),
    ("company_size", optionalText p.size), ("industry", optionalText p.industry),
    ("enrichment", .object [("isCompetitor", .bool p.flagged),
      ("isFreeMailbox", .bool p.flagged)])])]

def lead (p : Probe) : Lead := .ofEntries [] (Json.toEntries p.entries [])

theorem ofValue?_eq (p : Probe) :
    Lead.ofValue? [] (Json.object p.entries).toValue = some p.lead := rfl

/-- The lead that takes all of every weight. -/
def greatest (size industry : Option String) : Probe :=
  { title := some "ceo", level := some "high", size, industry }

/-- The lead that takes every penalty. -/
def least (size industry : Option String) : Probe :=
  { email := some "test", flagged := true, size, industry }

/-- A lead has all that has a weight and nothing that has a penalty. -/
structure TakesAll (l : Lead) : Prop where
  title : l.firstFilled Vocabulary.titlePaths = .ok (.text "ceo")
  urgency : l.firstFilled Vocabulary.urgencyPaths = .ok (.text "high")
  engagement : l.firstFilled Vocabulary.engagementPaths = .ok (.text "high")
  penalties (tables : DomainTables) (own : List String) (p : Penalties) :
    Signal.penalties tables l own p = .ok {}

/-- A lead has nothing that has a weight and all that has a penalty. -/
structure TakesNone (l : Lead) : Prop where
  title : l.firstFilled Vocabulary.titlePaths = .ok .null
  urgency : l.firstFilled Vocabulary.urgencyPaths = .ok .null
  engagement : l.firstFilled Vocabulary.engagementPaths = .ok .null
  competitor : Signal.isFlagged l Vocabulary.competitorFlag = .ok true
  freeMailbox : Signal.isFlagged l Vocabulary.freeMailboxFlag = .ok true
  email : l.email = .text "test"

theorem takesAll_greatest (size industry : Option String) :
    TakesAll (greatest size industry).lead where
  title := by cbv
  urgency := by cbv
  engagement := by cbv
  penalties tables own p := by cbv

theorem takesNone_least (size industry : Option String) :
    TakesNone (least size industry).lead where
  title := by cbv
  urgency := by cbv
  engagement := by cbv
  competitor := by cbv
  freeMailbox := by cbv
  email := by cbv

section

variable {l : Lead}

theorem address_test : Address.ofText "test" = { mailbox := some ['t', 'e', 's', 't'] } := rfl

theorem TakesNone.invalidDomain (h : TakesNone l) : Signal.hasInvalidDomain l = true := by
  have hblank : Text.trim ['t', 'e', 's', 't'] ≠ [] := by decide
  simp [Signal.hasInvalidDomain, h.email, address_test, hblank]

theorem TakesNone.spam (h : TakesNone l) (disposable : List String) :
    Signal.isSpam (Address.ofValue l.email) disposable = true := by
  have hfake : Mailbox.isFake ['t', 'e', 's', 't'] = true := rfl
  simp [Signal.isSpam, Address.ofValue, h.email, address_test, hfake]

end

theorem firstFilled_cons_text {l : Lead} {path s : String} {paths : List String} (hs : s ≠ "")
    (h : l.resolve path = .ok (.text s)) : l.firstFilled (path :: paths) = .ok (.text s) := by
  have hfilled : (Value.text s).isFilled = .ok true := by simp [Value.isFilled, hs]
  rw [Lead.firstFilled, Value.firstFilled]
  rw [Lead.resolve] at h
  rw [h, Except.ok_bind, hfilled]
  rfl

/-- A lead names the tiers its probe does. -/
theorem firstFilled_tiers (p : Probe) (hsize : ∀ s ∈ p.size, s ≠ "")
    (hindustry : ∀ s ∈ p.industry, s ≠ "") :
    p.lead.firstFilled Vocabulary.companySizePaths = .ok (optionalText p.size).toValue ∧
      p.lead.firstFilled Vocabulary.industryPaths = .ok (optionalText p.industry).toValue := by
  obtain ⟨email, title, level, flagged, size, industry⟩ := p
  constructor
  case left =>
    cases size with
    | none => cbv
    | some s => exact firstFilled_cons_text (hsize s rfl) (by cbv)
  case right =>
    cases industry with
    | none => cbv
    | some s => exact firstFilled_cons_text (hindustry s rfl) (by cbv)

/-! ### What they come to -/

variable {tables : DomainTables} {c : Scorecard} {s : Signals} {size industry : Option String}

theorem weights_greatest (hs : s.OfLead tables (greatest size industry).lead c) :
    (∀ w, c.weights = some w → ∀ x ∈ [w.jobRole, w.urgency, w.engagement], x.HasPoints) ∧
      s.jobRole.points + s.urgency.points + s.engagement.points = c.weightPoints := by
  obtain ⟨hjobRole, hurgency, hengagement, -, -⟩ := hs
  unfold Scorecard.weightPoints
  cases hw : c.weights with
  | none =>
      rw [hw] at hjobRole hurgency hengagement
      rw [Signal.points_of_silent hjobRole, Signal.points_of_silent hurgency,
        Signal.points_of_silent hengagement]
      exact ⟨fun _ h => (nomatch h), rfl⟩
  | some w =>
      simp only [hw, Signal.ofSection] at hjobRole hurgency hengagement
      have hlead := takesAll_greatest size industry
      have h₁ := Signal.takesAllOf_of_jobRole hlead.title hjobRole
      have h₂ := Signal.takesAllOf_of_level hlead.urgency (by decide) hurgency
      have h₃ := Signal.takesAllOf_of_level hlead.engagement (by decide) hengagement
      refine ⟨?_, ?_⟩
      · rintro _ ⟨⟩
        simp [h₁.1, h₂.1, h₃.1]
      · rw [h₁.2, h₂.2, h₃.2]
        rfl

theorem negative_greatest (hs : s.OfLead tables (greatest size industry).lead c) :
    s.negative.points = 0 := by
  have hnegative := hs.negative
  cases hp : c.penalties with
  | none =>
      rw [hp] at hnegative
      exact Signal.points_of_silent hnegative
  | some p =>
      rw [hp, Signal.ofSection, (takesAll_greatest size industry).penalties] at hnegative
      exact Signal.points_of_silent hnegative

theorem weights_least (hs : s.OfLead tables (least size industry).lead c) :
    s.jobRole.points + s.urgency.points + s.engagement.points = 0 := by
  obtain ⟨hjobRole, hurgency, hengagement, -, -⟩ := hs
  cases hw : c.weights with
  | none =>
      rw [hw] at hjobRole hurgency hengagement
      rw [Signal.points_of_silent hjobRole, Signal.points_of_silent hurgency,
        Signal.points_of_silent hengagement]
      rfl
  | some w =>
      simp only [hw, Signal.ofSection] at hjobRole hurgency hengagement
      have hlead := takesNone_least size industry
      rw [Signal.points_of_jobRole_silent hlead.title hjobRole,
        Signal.points_of_level_silent hlead.urgency hurgency,
        Signal.points_of_level_silent hlead.engagement hengagement]
      rfl

theorem negative_least (hs : s.OfLead tables (least size industry).lead c) :
    (∀ p, c.penalties = some p →
      ∀ x ∈ [p.competitor, p.freeEmail, p.invalidDomain, p.spam], x.HasPoints) ∧
      s.negative.points = -c.penaltyPoints := by
  have hnegative := hs.negative
  unfold Scorecard.penaltyPoints
  cases hp : c.penalties with
  | none =>
      rw [hp] at hnegative
      exact ⟨fun _ h => (nomatch h), Signal.points_of_silent hnegative⟩
  | some p =>
      rw [hp, Signal.ofSection] at hnegative
      have hlead := takesNone_least size industry
      obtain ⟨hpoints, hsum⟩ := Signal.penalties_fired hlead.competitor hlead.freeMailbox
        hlead.invalidDomain (hlead.spam _) hnegative
      refine ⟨?_, hsum⟩
      rintro _ ⟨⟩
      exact hpoints

end Probe

/-! ## Tiers by name -/

namespace PointTable

variable {t : PointTable} {a : Int}

/-- A table gives these points to a lead that names a tier so, or none of them. -/
def GivesTo (t : PointTable) (name : Option String) (n : Int) : Prop :=
  match name with
  | none => n = 0
  | some s => s ≠ "" ∧ ∃ x, t.get? (tierKey s) = some x ∧ n = x.points

/-- Whatever a table gives, it gives for some name. -/
theorem exists_givesTo (ht : t.IsNameable) (h : t.Gives a) : ∃ name, t.GivesTo name a := by
  rcases h with rfl | ⟨key, x, hx, rfl⟩
  · exact ⟨none, rfl⟩
  · obtain ⟨s, hs, rfl⟩ := ht key x hx
    exact ⟨some s, hs, x, hx, rfl⟩

theorem GivesTo.ne_empty {name : Option String} (h : t.GivesTo name a) : ∀ s ∈ name, s ≠ "" := by
  rintro s rfl
  exact h.1

theorem GivesTo.eq_zero_of_nil {name : Option String} (h : GivesTo [] name a) : a = 0 := by
  cases name with
  | none => exact h
  | some s =>
      obtain ⟨-, x, hx, -⟩ := h
      cases hx

theorem points_of_tier {lead : Lead} {paths : List String} {label : String} {s : Signal}
    {name : Option String} (hname : lead.firstFilled paths = .ok (Json.optionalText name).toValue)
    (ht : t.GivesTo name a) (h : Signal.tier lead paths t label = .ok s) :
    s.points = a ∧ ∀ n ∈ name, ∀ x, t.get? (tierKey n) = some x → x.HasPoints := by
  cases name with
  | none =>
      rw [Signal.tier, hname] at h
      obtain rfl : a = 0 := ht
      exact ⟨Signal.points_of_silent h, fun n hn => absurd hn (Option.not_mem_none n)⟩
  | some n =>
      obtain ⟨-, x, hx, rfl⟩ := ht
      have hall := Signal.takesAllOf_of_tier hname hx h
      refine ⟨hall.2, ?_⟩
      rintro _ ⟨⟩ y hy
      cases hx.symm.trans hy
      exact hall.1

end PointTable

namespace Probe

variable {p : Probe} {tables : DomainTables} {c : Scorecard} {s : Signals} {a b : Int}

/-- A lead that names its tiers is given their points, and these are worth points. -/
theorem enrichment_eq (hs : s.OfLead tables p.lead c) (ha : c.companySizes.GivesTo p.size a)
    (hb : c.industries.GivesTo p.industry b) :
    s.enrichment.points = a + b ∧
      (∀ n ∈ p.size, ∀ x, c.companySizes.get? (PointTable.tierKey n) = some x → x.HasPoints) ∧
      ∀ n ∈ p.industry, ∀ x, c.industries.get? (PointTable.tierKey n) = some x → x.HasPoints := by
  obtain ⟨hsize, hindustry⟩ := p.firstFilled_tiers ha.ne_empty hb.ne_empty
  have henrichment := hs.enrichment
  unfold Scorecard.companySizes Scorecard.industries at *
  cases he : c.enrichment with
  | none =>
      rw [he] at henrichment ha hb
      have ha : a = 0 := ha.eq_zero_of_nil
      have hb : b = 0 := hb.eq_zero_of_nil
      rw [Signal.points_of_silent henrichment, ha, hb]
      exact ⟨rfl, fun _ _ _ h => (nomatch h), fun _ _ _ h => nomatch h⟩
  | some e =>
      rw [he] at henrichment ha hb
      obtain ⟨size, industry, h₁, h₂, hsum⟩ := Signal.enrichment_eq_ok_iff.mp henrichment
      rw [hsum]
      obtain ⟨hpoints₁, hhas₁⟩ := PointTable.points_of_tier hsize ha h₁
      obtain ⟨hpoints₂, hhas₂⟩ := PointTable.points_of_tier hindustry hb h₂
      exact ⟨by rw [Signal.and, hpoints₁, hpoints₂], hhas₁, hhas₂⟩

/-- A scorecard is one by which leads can be scored if all of these can. -/
theorem isScorable_of_forall (hsizes : c.companySizes.IsNameable)
    (hindustries : c.industries.IsNameable)
    (h : ∀ p : Probe, ∃ b, BaseScore.ofLead tables p.lead c = .ok b) : c.IsScorable := by
  have hsignals : ∀ p : Probe, ∃ s : Signals, s.OfLead tables p.lead c ∧
      s.components.total.natAbs < tenTo Decimal.precision := by
    intro p
    obtain ⟨b, hb⟩ := h p
    obtain ⟨s, hs, hscore, -⟩ := BaseScore.ofLead_eq_ok_iff.mp hb
    exact ⟨s, hs, (clampScore_eq_ok_iff.mp hscore).1⟩
  constructor
  case points =>
    rintro x hx
    cases hx with
    | weight hw hx =>
        obtain ⟨s, hs, -⟩ := hsignals (greatest none none)
        exact (weights_greatest hs).1 _ hw x hx
    | penalty hp hx =>
        obtain ⟨s, hs, -⟩ := hsignals (least none none)
        exact (negative_least hs).1 _ hp x hx
    | companySize hx =>
        obtain ⟨n, hn, rfl⟩ := hsizes _ x hx
        obtain ⟨s, hs, -⟩ := hsignals (greatest (some n) none)
        exact (enrichment_eq hs ⟨hn, x, hx, rfl⟩ rfl).2.1 n rfl x hx
    | industry hx =>
        obtain ⟨n, hn, rfl⟩ := hindustries _ x hx
        obtain ⟨s, hs, -⟩ := hsignals (greatest none (some n))
        exact (enrichment_eq hs rfl ⟨hn, x, hx, rfl⟩).2.2 n rfl x hx
  case greatest =>
    intro a b ha hb
    obtain ⟨size, ha⟩ := PointTable.exists_givesTo hsizes ha
    obtain ⟨industry, hb⟩ := PointTable.exists_givesTo hindustries hb
    obtain ⟨s, hs, hdigits⟩ := hsignals (greatest size industry)
    have hweights := (weights_greatest hs).2
    have hnegative := negative_greatest hs
    have henrichment := (enrichment_eq hs ha hb).1
    have htotal : s.components.total = s.jobRole.points + s.urgency.points + s.engagement.points +
        s.enrichment.points + s.negative.points := rfl
    omega
  case least =>
    intro a b ha hb
    obtain ⟨size, ha⟩ := PointTable.exists_givesTo hsizes ha
    obtain ⟨industry, hb⟩ := PointTable.exists_givesTo hindustries hb
    obtain ⟨s, hs, hdigits⟩ := hsignals (least size industry)
    have hweights := weights_least hs
    have hnegative := (negative_least hs).2
    have henrichment := (enrichment_eq hs ha hb).1
    have htotal : s.components.total = s.jobRole.points + s.urgency.points + s.engagement.points +
        s.enrichment.points + s.negative.points := rfl
    omega

end Probe

namespace Scorecard

variable {c : Scorecard} {es : List (Value × Value)}

theorem isNameable_companySizes (h : ofValue? (.map es) = some c) : c.companySizes.IsNameable := by
  unfold companySizes
  cases he : c.enrichment with
  | none => exact PointTable.isNameable_nil
  | some e => exact (isNameable_of_ofValue? h he).1

theorem isNameable_industries (h : ofValue? (.map es) = some c) : c.industries.IsNameable := by
  unfold industries
  cases he : c.enrichment with
  | none => exact PointTable.isNameable_nil
  | some e => exact (isNameable_of_ofValue? h he).2

end Scorecard

end Qualify
