import Qualify.Proofs.BaseScore
import Qualify.Proofs.Lead.Plain
import Qualify.Proofs.Points.Range

/-!
# How far the points of a lead reach

Every signal of a lead made of plain data stays within what the scorecard has for it: a share of a
weight, the points of one tier, or the sum of the penalties.  So if all numbers of a scorecard are
worth points, and if those of the greatest and of the least lead that it can meet are few enough to
be added up (`Scorecard.IsScorable`), then every such lead has a base score (`exists_ofLead`).
-/

namespace Qualify

/-! ## What a scorecard has to give -/

/-- The points that a number is worth, zero if it is worth none. -/
def Binary64.points (x : Binary64) : Int := x.toPoints.toOption.getD 0

namespace Binary64

variable {x : Binary64} {p : Int}

theorem points_eq (h : x.toPoints = .ok p) : x.points = p := by rw [points, h]; rfl

theorem HasPoints.toPoints_eq (h : x.HasPoints) : x.toPoints = .ok x.points := by
  obtain ⟨p, hp⟩ := h
  rw [points_eq hp, hp]

theorem HasPoints.points_nonneg (h : x.HasPoints) (hx : Binary64.zero.le x) : 0 ≤ x.points := by
  obtain ⟨q, -, hq, hle⟩ := exists_scaledPoints_le hx h.toPoints_eq (Nat.zero_le 100)
  exact hq.trans hle

end Binary64

/-- The points of all three weights. -/
def Weights.points (w : Weights) : Int := w.jobRole.points + w.urgency.points + w.engagement.points

/-- The points that all four penalties take off. -/
def Penalties.points (p : Penalties) : Int :=
  |p.competitor.points| + |p.freeEmail.points| + |p.invalidDomain.points| + |p.spam.points|

/-- A table may give these points: none at all, or those of one of its tiers. -/
def PointTable.Gives (t : PointTable) (n : Int) : Prop :=
  n = 0 ∨ ∃ key x, t.get? key = some x ∧ n = x.points

namespace Scorecard

def weightPoints (c : Scorecard) : Int := (c.weights.map Weights.points).getD 0

def penaltyPoints (c : Scorecard) : Int := (c.penalties.map Penalties.points).getD 0

def companySizes (c : Scorecard) : PointTable := (c.enrichment.map Enrichment.companySize).getD []

def industries (c : Scorecard) : PointTable := (c.enrichment.map Enrichment.industry).getD []

/-- A number is one of those that a scorecard turns into points. -/
inductive Holds (c : Scorecard) : Binary64 → Prop
  | weight {w : Weights} {x : Binary64} (h : c.weights = some w)
      (hx : x ∈ [w.jobRole, w.urgency, w.engagement]) : Holds c x
  | penalty {p : Penalties} {x : Binary64} (h : c.penalties = some p)
      (hx : x ∈ [p.competitor, p.freeEmail, p.invalidDomain, p.spam]) : Holds c x
  | companySize {key : String} {x : Binary64} (h : c.companySizes.get? key = some x) : Holds c x
  | industry {key : String} {x : Binary64} (h : c.industries.get? key = some x) : Holds c x

/-- All numbers of a scorecard are worth points, and whatever tiers a lead names, the points of all
weights on top of theirs are fewer than can be added up, and so are those of all penalties off
theirs. -/
structure IsScorable (c : Scorecard) : Prop where
  points : ∀ x, c.Holds x → x.HasPoints
  greatest : ∀ a b, c.companySizes.Gives a → c.industries.Gives b →
    c.weightPoints + a + b < tenTo Decimal.precision
  least : ∀ a b, c.companySizes.Gives a → c.industries.Gives b →
    -(tenTo Decimal.precision : Int) < a + b - c.penaltyPoints

end Scorecard

namespace Scorecard

variable {c : Scorecard}

/-- A scorecard whose numbers are all finite and below `10 ^ 27` is one by which leads can be
scored: at most five of them are added up, and at most six taken off. -/
theorem isScorable_of_lt (h : ∀ x, c.Holds x → x.isFinite ∧ x.magnitude < 10 ^ 27) :
    c.IsScorable := by
  have hbound : ∀ x, c.Holds x → x.HasPoints ∧ |x.points| ≤ 15 * 10 ^ 26 := by
    intro x hx
    obtain ⟨p, hp, hle⟩ := Binary64.exists_toPoints_of_lt (h x hx).1 (h x hx).2
    exact ⟨⟨p, hp⟩, (Binary64.points_eq hp).symm ▸ hle⟩
  have hweights : c.weightPoints ≤ 3 * (15 * 10 ^ 26) := by
    unfold weightPoints
    cases hw : c.weights with
    | none => simp
    | some w =>
        have hle : ∀ x ∈ [w.jobRole, w.urgency, w.engagement], x.points ≤ 15 * 10 ^ 26 :=
          fun x hx => (le_abs_self _).trans (hbound x (.weight hw hx)).2
        simp only [List.forall_mem_cons] at hle
        simp only [Option.map_some, Option.getD_some, Weights.points]
        omega
  have hpenalties : c.penaltyPoints ≤ 4 * (15 * 10 ^ 26) := by
    unfold penaltyPoints
    cases hp : c.penalties with
    | none => simp
    | some p =>
        have hle : ∀ x ∈ [p.competitor, p.freeEmail, p.invalidDomain, p.spam],
            |x.points| ≤ 15 * 10 ^ 26 := fun x hx => (hbound x (.penalty hp hx)).2
        simp only [List.forall_mem_cons] at hle
        simp only [Option.map_some, Option.getD_some, Penalties.points]
        omega
  have hgives : ∀ {t : PointTable} {a : Int}, (∀ key x, t.get? key = some x → c.Holds x) →
      t.Gives a → |a| ≤ 15 * 10 ^ 26 := by
    rintro t a ht (rfl | ⟨key, x, hx, rfl⟩)
    · simp
    · exact (hbound x (ht key x hx)).2
  have hprecision : (tenTo Decimal.precision : Int) = 10 ^ 28 := rfl
  constructor
  case points => exact fun x hx => (hbound x hx).1
  case greatest =>
    intro a b ha hb
    have ha := abs_le.mp (hgives (fun _ _ => .companySize) ha)
    have hb := abs_le.mp (hgives (fun _ _ => .industry) hb)
    omega
  case least =>
    intro a b ha hb
    have ha := abs_le.mp (hgives (fun _ _ => .companySize) ha)
    have hb := abs_le.mp (hgives (fun _ _ => .industry) hb)
    omega

end Scorecard

/-! ## Shares of a weight -/

/-- A decimal is a number of hundredths, no more than the whole. -/
def IsShare (d : Decimal) : Prop := ∃ n ≤ 100, d = hundredths n

instance : DecidablePred IsShare :=
  fun d => inferInstanceAs (Decidable (∃ n, n ≤ 100 ∧ d = hundredths n))

namespace Signal

variable {lead : Lead} {x : Binary64} {s s' : Signal}

/-- A signal takes no more than a number is worth. -/
def TakesOf (x : Binary64) (s : Signal) : Prop := 0 ≤ s.points ∧ s.points ≤ x.points

theorem takesOf_nil (hpoints : x.HasPoints) (hx : Binary64.zero.le x) : TakesOf x {} :=
  ⟨le_rfl, hpoints.points_nonneg hx⟩

/-- A share of a weight that is worth points can be taken. -/
theorem exists_scaledPoints_share (hpoints : x.HasPoints) (hx : Binary64.zero.le x) {d : Decimal}
    (hd : IsShare d) : ∃ q, scaledPoints x.shown d = .ok q ∧ 0 ≤ q ∧ q ≤ x.points := by
  obtain ⟨n, hn, rfl⟩ := hd
  exact Binary64.exists_scaledPoints_le hx hpoints.toPoints_eq hn

/-- The signal of an inquiry that finds nothing but what is worth points. -/
theorem Inquiry.exists_signal {α : Type} {i : Inquiry α} {P : Int → Prop} (hlead : lead.IsPlain)
    (hpaths : ∀ p ∈ i.paths, Value.IsKeyPath p) (hnil : P 0)
    (hfind : ∀ text a, i.find? text = some a → ∃ q, i.worth a = .ok q ∧ P q) :
    ∃ s, i.signal lead = .ok s ∧ P s.points := by
  obtain ⟨v, hv⟩ := hlead.exists_firstFilled hpaths
  cases hfound : i.found? lead with
  | none => exact ⟨{}, signal_of_none hv hfound, hnil⟩
  | some found =>
      obtain ⟨text, a⟩ := found
      obtain ⟨q, hq, hP⟩ := hfind text a (found?_eq_some_iff.mp hfound).2
      exact ⟨i.entry text a q, signal_eq_ok_iff.mpr (.inr ⟨text, a, q, hfound, hq, rfl⟩), hP⟩

theorem exists_jobRole (hlead : lead.IsPlain) {w : Weights} (h : w.jobRole.HasPoints) :
    ∃ s, jobRole lead w = .ok s ∧ s.TakesOf w.jobRole := by
  have hpaths : ∀ p ∈ Vocabulary.titlePaths, Value.IsKeyPath p := by decide +kernel
  have hshares : ∀ t ∈ Vocabulary.tiers, IsShare t.share := by decide +kernel
  rw [jobRole_eq_signal]
  exact Inquiry.exists_signal (i := .title w) hlead hpaths (takesOf_nil h w.nonnegative.1)
    fun title tier htier => exists_scaledPoints_share h w.nonnegative.1
      (hshares tier (mem_tiers_of_seniority? htier))

theorem exists_level (hlead : lead.IsPlain) (hpoints : x.HasPoints) (hx : Binary64.zero.le x)
    {paths : List String} (hpaths : ∀ p ∈ paths, Value.IsKeyPath p) {levels : Vocabulary.Levels}
    (hshares : ∀ e ∈ levels, IsShare e.2) (label : String) :
    ∃ s, level lead x paths levels label = .ok s ∧ s.TakesOf x := by
  rw [level_eq_signal]
  exact Inquiry.exists_signal (i := .level x paths levels label) hlead hpaths
    (takesOf_nil hpoints hx) fun text share hshare => exists_scaledPoints_share hpoints hx
      (hshares _ (List.mem_of_lookup_eq_some hshare))

/-! ## Tiers -/

theorem exists_tier (hlead : lead.IsPlain) {paths : List String}
    (hpaths : ∀ p ∈ paths, Value.IsKeyPath p) {table : PointTable}
    (htable : ∀ key x, table.get? key = some x → x.HasPoints) (label : String) :
    ∃ s, tier lead paths table label = .ok s ∧ table.Gives s.points := by
  rw [tier_eq_signal]
  exact Inquiry.exists_signal (i := .tier paths table label) hlead hpaths (.inl rfl)
    fun text x hx => ⟨x.points, (htable _ x hx).toPoints_eq, .inr ⟨_, x, hx, rfl⟩⟩

/-! ## Penalties -/

/-- A signal takes points off, no more than these. -/
def TakesOff (n : Int) (s : Signal) : Prop := -n ≤ s.points ∧ s.points ≤ 0

theorem TakesOff.and {m n : Int} (h : s.TakesOff m) (h' : s'.TakesOff n) :
    (s.and s').TakesOff (m + n) := by
  unfold TakesOff Signal.and at *
  dsimp only
  omega

theorem exists_penalty (hpoints : x.HasPoints) (fired : Bool) (tag line : String) :
    ∃ s, penalty fired x tag line = .ok s ∧ s.TakesOff |x.points| := by
  have hpositive : 0 ≤ |x.points| := abs_nonneg _
  cases fired with
  | false => exact ⟨_, rfl, by simp [TakesOff]⟩
  | true =>
      rw [penalty, Binary64.toPoints_abs hpoints.toPoints_eq]
      exact ⟨_, rfl, le_rfl, by simp⟩

theorem exists_isFlagged (hlead : lead.IsPlain) {path : String} (hpath : Value.IsKeyPath path) :
    ∃ b, isFlagged lead path = .ok b := by
  obtain ⟨v, hv⟩ := hlead.exists_resolve hpath
  rw [isFlagged, hv, Except.ok_bind]
  split
  · exact ⟨true, rfl⟩
  · exact ⟨false, rfl⟩

theorem exists_penalties (hlead : lead.IsPlain) (tables : DomainTables) (own : List String)
    {p : Penalties}
    (hp : ∀ x ∈ [p.competitor, p.freeEmail, p.invalidDomain, p.spam], x.HasPoints) :
    ∃ s, penalties tables lead own p = .ok s ∧ s.TakesOff p.points := by
  have hcompetitor : Value.IsKeyPath Vocabulary.competitorFlag := by decide +kernel
  have hfreeMailbox : Value.IsKeyPath Vocabulary.freeMailboxFlag := by decide +kernel
  obtain ⟨_, hisCompetitor⟩ := exists_isFlagged hlead hcompetitor
  obtain ⟨_, hisFreeMailbox⟩ := exists_isFlagged hlead hfreeMailbox
  obtain ⟨competitor, hc, h₁⟩ := exists_penalty (hp p.competitor (by simp)) _ _ _
  obtain ⟨freeEmail, hf, h₂⟩ := exists_penalty (hp p.freeEmail (by simp)) _ _ _
  obtain ⟨invalidDomain, hi, h₃⟩ := exists_penalty (hp p.invalidDomain (by simp)) _ _ _
  obtain ⟨spam, hs, h₄⟩ := exists_penalty (hp p.spam (by simp)) _ _ _
  exact ⟨_, penalties_eq_ok_iff.mpr ⟨⟨competitor, freeEmail, invalidDomain, spam⟩,
    ⟨⟨_, hisCompetitor, hc⟩, ⟨_, hisFreeMailbox, hf⟩, hi, hs⟩, rfl⟩,
    ((h₁.and h₂).and h₃).and h₄⟩

end Signal

/-! ## The base score -/

namespace BaseScore

variable {lead : Lead} {c : Scorecard}

theorem exists_weightSignals (hlead : lead.IsPlain) (hc : c.IsScorable) :
    ∃ s₁ s₂ s₃ : Signal,
      Signal.ofSection c.weights (fun w => Signal.jobRole lead w) = .ok s₁ ∧
      Signal.ofSection c.weights (fun w => Signal.level lead w.urgency Vocabulary.urgencyPaths
        Vocabulary.urgencyLevels "Urgency") = .ok s₂ ∧
      Signal.ofSection c.weights (fun w => Signal.level lead w.engagement
        Vocabulary.engagementPaths Vocabulary.engagementLevels "Engagement") = .ok s₃ ∧
      0 ≤ s₁.points + s₂.points + s₃.points ∧
      s₁.points + s₂.points + s₃.points ≤ c.weightPoints := by
  unfold Scorecard.weightPoints
  cases hw : c.weights with
  | none => exact ⟨{}, {}, {}, rfl, rfl, rfl, by simp⟩
  | some w =>
      have hurgencyPaths : ∀ p ∈ Vocabulary.urgencyPaths, Value.IsKeyPath p := by decide +kernel
      have hurgencyLevels : ∀ e ∈ Vocabulary.urgencyLevels, IsShare e.2 := by decide +kernel
      have hengagementPaths : ∀ p ∈ Vocabulary.engagementPaths, Value.IsKeyPath p := by
        decide +kernel
      have hengagementLevels : ∀ e ∈ Vocabulary.engagementLevels, IsShare e.2 := by decide +kernel
      have hholds : ∀ x ∈ [w.jobRole, w.urgency, w.engagement], x.HasPoints :=
        fun x hx => hc.points x (.weight hw hx)
      obtain ⟨s₁, h₁, hrange₁⟩ := Signal.exists_jobRole hlead (hholds w.jobRole (by simp))
      obtain ⟨s₂, h₂, hrange₂⟩ := Signal.exists_level hlead (hholds w.urgency (by simp))
        w.nonnegative.2.1 hurgencyPaths hurgencyLevels "Urgency"
      obtain ⟨s₃, h₃, hrange₃⟩ := Signal.exists_level hlead (hholds w.engagement (by simp))
        w.nonnegative.2.2 hengagementPaths hengagementLevels "Engagement"
      refine ⟨s₁, s₂, s₃, h₁, h₂, h₃, ?_, ?_⟩
      · exact add_nonneg (add_nonneg hrange₁.1 hrange₂.1) hrange₃.1
      · exact add_le_add (add_le_add hrange₁.2 hrange₂.2) hrange₃.2

theorem exists_enrichmentSignal (hlead : lead.IsPlain) (hc : c.IsScorable) :
    ∃ s a b, Signal.ofSection c.enrichment (fun e => Signal.enrichment lead e) = .ok s ∧
      c.companySizes.Gives a ∧ c.industries.Gives b ∧ s.points = a + b := by
  have hsizes : ∀ key x, c.companySizes.get? key = some x → x.HasPoints :=
    fun key x hx => hc.points x (.companySize hx)
  have hindustries : ∀ key x, c.industries.get? key = some x → x.HasPoints :=
    fun key x hx => hc.points x (.industry hx)
  unfold Scorecard.companySizes Scorecard.industries at *
  cases he : c.enrichment with
  | none => exact ⟨{}, 0, 0, rfl, .inl rfl, .inl rfl, rfl⟩
  | some e =>
      rw [he] at hsizes hindustries
      have hsizePaths : ∀ p ∈ Vocabulary.companySizePaths, Value.IsKeyPath p := by decide +kernel
      have hindustryPaths : ∀ p ∈ Vocabulary.industryPaths, Value.IsKeyPath p := by decide +kernel
      obtain ⟨size, hsize, hgives⟩ :=
        Signal.exists_tier hlead hsizePaths hsizes "Company size"
      obtain ⟨industry, hindustry, hgives'⟩ :=
        Signal.exists_tier hlead hindustryPaths hindustries "Industry"
      exact ⟨size.and industry, size.points, industry.points,
        Signal.enrichment_eq_ok_iff.mpr ⟨size, industry, hsize, hindustry, rfl⟩, hgives, hgives',
        rfl⟩

theorem exists_penaltySignal (hlead : lead.IsPlain) (hc : c.IsScorable) (tables : DomainTables) :
    ∃ s : Signal, Signal.ofSection c.penalties (fun p =>
      Signal.penalties tables lead c.competitorDomains p) = .ok s ∧ s.TakesOff c.penaltyPoints := by
  unfold Scorecard.penaltyPoints
  cases hp : c.penalties with
  | none => exact ⟨{}, rfl, by simp [Signal.TakesOff]⟩
  | some p =>
      exact Signal.exists_penalties hlead tables c.competitorDomains
        fun x hx => hc.points x (.penalty hp hx)

/-- A lead made of plain data has a base score under a scorecard by which leads can be scored. -/
theorem exists_ofLead (hlead : lead.IsPlain) (hc : c.IsScorable) (tables : DomainTables) :
    ∃ b, ofLead tables lead c = .ok b := by
  obtain ⟨jobRole, urgency, engagement, hjobRole, hurgency, hengagement, hlow, hhigh⟩ :=
    exists_weightSignals hlead hc
  obtain ⟨enrichment, size, industry, henrichment, hsize, hindustry, hsum⟩ :=
    exists_enrichmentSignal hlead hc
  obtain ⟨negative, hnegative, hoff⟩ := exists_penaltySignal hlead hc tables
  have hgreatest := hc.greatest size industry hsize hindustry
  have hleast := hc.least size industry hsize hindustry
  let s : Signals := ⟨jobRole, urgency, engagement, enrichment, negative⟩
  have hdigits : s.components.total.natAbs < tenTo Decimal.precision := by
    have htotal : s.components.total = jobRole.points + urgency.points + engagement.points +
      (size + industry) + negative.points := by rw [← hsum]; rfl
    obtain ⟨hoff, hneg⟩ := hoff
    omega
  let b : BaseScore := {
    score := max 0 (min 100 s.components.total)
    components := s.components
    tags := distinctTags (s.toList.flatMap Signal.tags)
    trace := s.toList.flatMap Signal.trace }
  exact ⟨b, ofLead_eq_ok_iff.mpr ⟨s, ⟨hjobRole, hurgency, hengagement, henrichment, hnegative⟩,
    clampScore_eq_ok_iff.mpr ⟨hdigits, rfl⟩, rfl, rfl, rfl⟩⟩

end BaseScore

end Qualify
