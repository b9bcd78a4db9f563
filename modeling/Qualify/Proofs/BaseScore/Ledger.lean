import Qualify.Proofs.BaseScore.Range
import Qualify.Proofs.Points.Share

/-!
# The books of a base score

A base score adds up points, tags and trace lines of nine signals, and each of these either says
nothing or leaves one line whose opening is its own.  So the trace is a ledger: it tells which
signals fired.  `BaseScore.exists_ledger` splits a base score into its nine signals, and
`BaseScore.IsLedger.filter_heads` finds the line of each of them again.
-/

namespace Qualify

/-! ## Nine signals -/

/-- The components, by name. -/
inductive Category where
  | jobRole
  | urgency
  | engagement
  | enrichment
  | negative
deriving DecidableEq

def Components.of (c : Components) : Category → Int
  | .jobRole => c.jobRole
  | .urgency => c.urgency
  | .engagement => c.engagement
  | .enrichment => c.enrichment
  | .negative => c.negative

/-- The section that a component is scored by is there. -/
def Scorecard.Covers (c : Scorecard) : Category → Prop
  | .jobRole | .urgency | .engagement => c.weights.isSome
  | .enrichment => c.enrichment.isSome
  | .negative => c.penalties.isSome

namespace Signal

/-- The signals, each with a line of its own in a trace. -/
inductive Kind where
  | jobRole
  | urgency
  | engagement
  | companySize
  | industry
  | competitor
  | freeEmail
  | invalidDomain
  | spam
deriving DecidableEq

namespace Kind

/-- The order in which their lines stand. -/
def all : List Kind :=
  [jobRole, urgency, engagement, companySize, industry, competitor, freeEmail, invalidDomain, spam]

def category : Kind → Category
  | jobRole => .jobRole
  | urgency => .urgency
  | engagement => .engagement
  | companySize | industry => .enrichment
  | competitor | freeEmail | invalidDomain | spam => .negative

/-- How the line of a signal begins; that of a penalty ends there, too. -/
def opening : Kind → String
  | jobRole => "Job role '"
  | urgency => "Urgency '"
  | engagement => "Engagement '"
  | companySize => "Company size '"
  | industry => "Industry '"
  | competitor => "Competitor penalty applied"
  | freeEmail => "Free email penalty"
  | invalidDomain => "Invalid domain penalty"
  | spam => "Spam penalty applied"

/-- Is a line one of this signal? -/
def heads (k : Kind) (line : String) : Bool := k.opening.toList.isPrefixOf line.toList

theorem mem_all (k : Kind) : k ∈ all := by
  cases k <;> decide

theorem heads_append (k : Kind) (rest : String) : k.heads (k.opening ++ rest) := by
  rw [heads, String.toList_append, List.isPrefixOf_iff_prefix]
  exact List.prefix_append _ _

/-- No opening goes on as another one does, so that a line tells the signal that left it. -/
theorem eq_of_heads {k k' : Kind} {line : String} (h : k.heads line) (h' : k'.heads line) :
    k = k' := by
  have hopening : ∀ k ∈ all, ∀ k' ∈ all, k.opening.toList <+: k'.opening.toList → k = k' := by
    decide +kernel
  rw [heads, List.isPrefixOf_iff_prefix] at h h'
  rcases List.prefix_or_prefix_of_prefix h h' with h | h
  · exact hopening k (mem_all k) k' (mem_all k') h
  · exact (hopening k' (mem_all k') k (mem_all k) h).symm

end Kind

variable {lead : Lead} {x : Binary64} {s : Signal} {k : Kind}

/-- A signal that fires leaves one line, its own. -/
def Fires (k : Kind) (s : Signal) : Prop := ∃ line, s.trace = [line] ∧ k.heads line

/-- A signal says nothing at all, or it fires. -/
def IsSettled (k : Kind) (s : Signal) : Prop := s = {} ∨ s.Fires k

theorem isSettled_nil : ({} : Signal).IsSettled k := .inl rfl

theorem IsSettled.length_trace_le (h : s.IsSettled k) : s.trace.length ≤ 1 := by
  obtain rfl | ⟨line, htrace, -⟩ := h
  · exact Nat.zero_le 1
  · rw [htrace, List.length_singleton]

/-- Among the lines of one signal are those of another only if it is the same. -/
theorem IsSettled.filter_trace {k' : Kind} (h : s.IsSettled k') :
    s.trace.filter k.heads = if k' = k then s.trace else [] := by
  obtain rfl | ⟨line, htrace, hline⟩ := h
  · simp
  · rw [htrace]
    split
    · case isTrue hk => exact List.filter_eq_self.mpr (by simpa [← hk] using hline)
    · case isFalse hk =>
        refine List.filter_eq_nil_iff.mpr ?_
        rw [List.forall_mem_singleton]
        exact fun hheads => hk (Kind.eq_of_heads hline hheads)

/-! ## Weights -/

theorem isShareOf_of_isShare (hx : Binary64.zero.le x) {d : Decimal} (hd : IsShare d) {q : Int}
    (hq : scaledPoints x.shown d = .ok q) : x.IsShareOf q := by
  obtain ⟨n, hn, rfl⟩ := hd
  exact Binary64.isShareOf_of_scaledPoints hx hn hq

theorem isSettled_jobRole {w : Weights} (h : jobRole lead w = .ok s) :
    s.IsSettled .jobRole ∧ w.jobRole.IsShareOf s.points := by
  have hshares : ∀ t ∈ Vocabulary.tiers, IsShare t.share := by decide +kernel
  have hx := w.nonnegative.1
  rw [jobRole_eq_signal, Inquiry.signal_eq_ok_iff] at h
  obtain ⟨-, -, rfl⟩ | ⟨title, tier, q, hfound, hq, rfl⟩ := h
  · exact ⟨isSettled_nil, Binary64.isShareOf_zero hx⟩
  · obtain ⟨-, htier⟩ := Inquiry.found?_eq_some_iff.mp hfound
    refine ⟨.inr ⟨_, rfl, ?_⟩, isShareOf_of_isShare hx (hshares tier ?_) hq⟩
    · simp only [Inquiry.title, String.append_assoc]
      exact Kind.heads_append .jobRole _
    · exact mem_tiers_of_seniority? htier

/-- The line of an entry under a label is headed by the label. -/
theorem heads_entry {label : String} (hlabel : k.opening = label ++ " '") (key : String)
    (points : Int) : k.heads (label ++ " '" ++ key ++ "' (" ++ signedText points ++ ")") := by
  rw [← hlabel]
  simp only [String.append_assoc]
  exact Kind.heads_append k _

theorem isSettled_level (hx : Binary64.zero.le x) {paths : List String} {levels : Vocabulary.Levels}
    (hshares : ∀ e ∈ levels, IsShare e.2) {label : String} (hlabel : k.opening = label ++ " '")
    (h : level lead x paths levels label = .ok s) : s.IsSettled k ∧ x.IsShareOf s.points := by
  rw [level_eq_signal, Inquiry.signal_eq_ok_iff] at h
  obtain ⟨-, -, rfl⟩ | ⟨text, share, q, hfound, hq, rfl⟩ := h
  · exact ⟨isSettled_nil, Binary64.isShareOf_zero hx⟩
  · obtain ⟨-, hshare⟩ := Inquiry.found?_eq_some_iff.mp hfound
    have hmem : (normalizedLevel text, share) ∈ levels := List.mem_of_lookup_eq_some hshare
    exact ⟨.inr ⟨_, rfl, heads_entry hlabel _ q⟩, isShareOf_of_isShare hx (hshares _ hmem) hq⟩

end Signal

/-! ## Lookups of tiers -/

/-- A table in which a lead's tier is looked up, with the paths at which the lead names it. -/
structure Lookup where
  kind : Signal.Kind
  paths : List String
  table : PointTable

namespace Lookup

/-- The key and the number of the tier that a lead names. -/
def found? (l : Lookup) (lead : Lead) : Option (String × Binary64) :=
  match lead.firstFilled l.paths with
  | .ok (.text s) => (l.table.get? (PointTable.tierKey s)).map fun x => (PointTable.tierKey s, x)
  | _ => none

/-- The rounded points of that tier, zero if there is none. -/
def points (l : Lookup) (lead : Lead) : Int := ((l.found? lead).map fun t => t.2.points).getD 0

/-- What a lookup leaves: the points of the tier that was found, and else nothing. -/
def Leaves (l : Lookup) (lead : Lead) (s : Signal) : Prop :=
  (l.found? lead = none ∧ s = {}) ∨
    ∃ key x, l.found? lead = some (key, x) ∧ x.toPoints = .ok s.points ∧ s.Fires l.kind

variable {l : Lookup} {lead : Lead} {s : Signal}

/-- A lookup finds what the inquiry for a tier does, under its key. -/
theorem found?_eq (l : Lookup) (lead : Lead) (label : String) :
    l.found? lead = ((Signal.Inquiry.tier l.paths l.table label).found? lead).map fun t =>
      (PointTable.tierKey t.1, t.2) := by
  simp only [found?, Signal.Inquiry.found?, Signal.Inquiry.tier]
  cases lead.firstFilled l.paths with
  | error f => rfl
  | ok v =>
      cases v with
      | text s => simp [Function.comp_def]
      | _ => rfl

theorem leaves_of_tier {label : String} (hlabel : l.kind.opening = label ++ " '")
    (h : Signal.tier lead l.paths l.table label = .ok s) : l.Leaves lead s := by
  rw [Signal.tier_eq_signal, Signal.Inquiry.signal_eq_ok_iff] at h
  unfold Leaves
  rw [found?_eq l lead label]
  obtain ⟨-, hnone, rfl⟩ | ⟨text, x, q, hfound, hq, rfl⟩ := h
  · exact .inl ⟨by rw [hnone]; rfl, rfl⟩
  · exact .inr ⟨_, x, by rw [hfound]; rfl, hq, _, rfl, Signal.heads_entry hlabel _ q⟩

theorem Leaves.isSettled (h : l.Leaves lead s) : s.IsSettled l.kind := by
  obtain ⟨-, rfl⟩ | ⟨key, x, -, -, hfires⟩ := h
  · exact Signal.isSettled_nil
  · exact .inr hfires

theorem Leaves.points_eq (h : l.Leaves lead s) : s.points = l.points lead := by
  unfold points
  obtain ⟨hnone, rfl⟩ | ⟨key, x, hsome, hpoints, -⟩ := h
  · rw [hnone]
    rfl
  · rw [hsome]
    exact (Binary64.points_eq hpoints).symm

theorem Leaves.trace_ne_nil_iff (h : l.Leaves lead s) : s.trace ≠ [] ↔ (l.found? lead).isSome := by
  obtain ⟨hnone, rfl⟩ | ⟨key, x, hsome, -, line, htrace, -⟩ := h
  · simp [hnone]
  · simp [hsome, htrace]

end Lookup

/-- The two lookups of an enrichment. -/
def Enrichment.lookups (e : Enrichment) : List Lookup :=
  [⟨.companySize, Vocabulary.companySizePaths, e.companySize⟩,
   ⟨.industry, Vocabulary.industryPaths, e.industry⟩]

/-! ## Fines -/

/-- A penalty: the magnitude that is taken off and the tag that says so. -/
structure Fine where
  kind : Signal.Kind
  magnitude : Binary64
  tag : String

namespace Fine

def line (f : Fine) : String := f.kind.opening

/-- What a fine leaves: nothing, or its points taken off, its tag and its line. -/
def Leaves (f : Fine) (s : Signal) : Prop :=
  s = {} ∨ ∃ q, f.magnitude.abs.toPoints = .ok q ∧ s = ⟨-q, [f.tag], [f.line]⟩

variable {f : Fine} {s : Signal}

theorem leaves_of_penalty {fired : Bool}
    (h : Signal.penalty fired f.magnitude f.tag f.line = .ok s) : f.Leaves s := by
  obtain ⟨-, rfl⟩ | ⟨-, q, hq, rfl⟩ := Signal.penalty_eq_ok_iff.mp h
  · exact .inl rfl
  · exact .inr ⟨q, hq, rfl⟩

theorem heads_line (f : Fine) : f.kind.heads f.line := by
  have h := f.kind.heads_append ""
  rwa [String.append_empty] at h

theorem Leaves.isSettled (h : f.Leaves s) : s.IsSettled f.kind := by
  obtain rfl | ⟨q, -, rfl⟩ := h
  · exact Signal.isSettled_nil
  · exact .inr ⟨_, rfl, f.heads_line⟩

end Fine

/-- The four fines of a scorecard with penalties. -/
def Penalties.fines (p : Penalties) : List Fine :=
  [⟨.competitor, p.competitor, Tag.competitor⟩, ⟨.freeEmail, p.freeEmail, Tag.freeEmail⟩,
   ⟨.invalidDomain, p.invalidDomain, Tag.invalidDomain⟩, ⟨.spam, p.spam, Tag.spam⟩]

/-! ## The ledger -/

/-- The nine signals that five are made of. -/
def Signals.byKind (s : Signals) (size industry competitor freeEmail invalidDomain spam : Signal) :
    Signal.Kind → Signal
  | .jobRole => s.jobRole
  | .urgency => s.urgency
  | .engagement => s.engagement
  | .companySize => size
  | .industry => industry
  | .competitor => competitor
  | .freeEmail => freeEmail
  | .invalidDomain => invalidDomain
  | .spam => spam

namespace BaseScore

variable {tables : DomainTables} {lead : Lead} {c : Scorecard} {b : BaseScore}

/-- Nine signals that a base score is made of. -/
structure IsLedger (lead : Lead) (c : Scorecard) (b : BaseScore) (s : Signal.Kind → Signal) :
    Prop where
  components : b.components =
    { jobRole := (s .jobRole).points
      urgency := (s .urgency).points
      engagement := (s .engagement).points
      enrichment := (s .companySize).points + (s .industry).points
      negative := (s .competitor).points + (s .freeEmail).points + (s .invalidDomain).points +
        (s .spam).points }
  tags : b.tags = distinctTags (Signal.Kind.all.flatMap fun k => (s k).tags)
  trace : b.trace = Signal.Kind.all.flatMap fun k => (s k).trace
  settled (k : Signal.Kind) : (s k).IsSettled k
  covered (k : Signal.Kind) : ¬c.Covers k.category → s k = {}
  shares : ∀ w, c.weights = some w → w.jobRole.IsShareOf (s .jobRole).points ∧
    w.urgency.IsShareOf (s .urgency).points ∧ w.engagement.IsShareOf (s .engagement).points
  lookups : ∀ e, c.enrichment = some e → ∀ l ∈ e.lookups, l.Leaves lead (s l.kind)
  fines : ∀ p, c.penalties = some p → ∀ f ∈ p.fines, f.Leaves (s f.kind)

/-- The signals that get a share of a weight. -/
theorem weightSignals {s : Signals} (h : s.OfLead tables lead c) :
    (s.jobRole.IsSettled .jobRole ∧ s.urgency.IsSettled .urgency ∧
      s.engagement.IsSettled .engagement) ∧
    (c.weights = none → s.jobRole = {} ∧ s.urgency = {} ∧ s.engagement = {}) ∧
    ∀ w, c.weights = some w → w.jobRole.IsShareOf s.jobRole.points ∧
      w.urgency.IsShareOf s.urgency.points ∧ w.engagement.IsShareOf s.engagement.points := by
  obtain ⟨hjobRole, hurgency, hengagement, -, -⟩ := h
  cases hw : c.weights with
  | none =>
      rw [hw] at hjobRole hurgency hengagement
      have h₁ : s.jobRole = {} := (Except.ok.inj hjobRole).symm
      have h₂ : s.urgency = {} := (Except.ok.inj hurgency).symm
      have h₃ : s.engagement = {} := (Except.ok.inj hengagement).symm
      rw [h₁, h₂, h₃]
      refine ⟨⟨.inl rfl, .inl rfl, .inl rfl⟩, fun _ => ⟨rfl, rfl, rfl⟩, fun w hsome => ?_⟩
      exact absurd hsome.symm (Option.some_ne_none w)
  | some w =>
      rw [hw, Signal.ofSection] at hjobRole hurgency hengagement
      obtain ⟨hsettled₁, hshare₁⟩ := Signal.isSettled_jobRole hjobRole
      obtain ⟨hsettled₂, hshare₂⟩ := Signal.isSettled_level (k := .urgency) w.nonnegative.2.1
        (by decide +kernel) rfl hurgency
      obtain ⟨hsettled₃, hshare₃⟩ := Signal.isSettled_level (k := .engagement) w.nonnegative.2.2
        (by decide +kernel) rfl hengagement
      refine ⟨⟨hsettled₁, hsettled₂, hsettled₃⟩, fun hnone => ?_, fun w' hsome => ?_⟩
      · exact absurd hnone (Option.some_ne_none w)
      · cases Option.some.inj hsome
        exact ⟨hshare₁, hshare₂, hshare₃⟩

/-- The signals of an enrichment. -/
theorem enrichmentSignals {s : Signals} (h : s.OfLead tables lead c) :
    ∃ size industry, s.enrichment = size.and industry ∧
      (size.IsSettled .companySize ∧ industry.IsSettled .industry) ∧
      (c.enrichment = none → size = {} ∧ industry = {}) ∧
      ∀ e, c.enrichment = some e →
        Lookup.Leaves ⟨.companySize, Vocabulary.companySizePaths, e.companySize⟩ lead size ∧
        Lookup.Leaves ⟨.industry, Vocabulary.industryPaths, e.industry⟩ lead industry := by
  have henrichment := h.enrichment
  cases he : c.enrichment with
  | none =>
      rw [he] at henrichment
      refine ⟨{}, {}, (Except.ok.inj henrichment).symm, ⟨.inl rfl, .inl rfl⟩,
        fun _ => ⟨rfl, rfl⟩, fun e hsome => ?_⟩
      exact absurd hsome.symm (Option.some_ne_none e)
  | some e =>
      rw [he] at henrichment
      obtain ⟨size, industry, hsize, hindustry, henrichment⟩ :=
        Signal.enrichment_eq_ok_iff.mp henrichment
      have hsize := Lookup.leaves_of_tier
        (l := ⟨.companySize, Vocabulary.companySizePaths, e.companySize⟩) rfl hsize
      have hindustry := Lookup.leaves_of_tier
        (l := ⟨.industry, Vocabulary.industryPaths, e.industry⟩) rfl hindustry
      refine ⟨size, industry, henrichment,
        ⟨hsize.isSettled, hindustry.isSettled⟩, fun hnone => ?_, fun e' hsome => ?_⟩
      · exact absurd hnone (Option.some_ne_none e)
      · cases Option.some.inj hsome
        exact ⟨hsize, hindustry⟩

/-- The signals of the penalties, and what tells whether that of a wrong domain fires. -/
theorem penaltySignals {s : Signals} (h : s.OfLead tables lead c) :
    ∃ competitor freeEmail invalidDomain spam,
      s.negative = ((competitor.and freeEmail).and invalidDomain).and spam ∧
      (competitor.IsSettled .competitor ∧ freeEmail.IsSettled .freeEmail ∧
        invalidDomain.IsSettled .invalidDomain ∧ spam.IsSettled .spam) ∧
      (c.penalties = none →
        competitor = {} ∧ freeEmail = {} ∧ invalidDomain = {} ∧ spam = {}) ∧
      ∀ p, c.penalties = some p →
        Fine.Leaves ⟨.competitor, p.competitor, Tag.competitor⟩ competitor ∧
        Fine.Leaves ⟨.freeEmail, p.freeEmail, Tag.freeEmail⟩ freeEmail ∧
        Fine.Leaves ⟨.invalidDomain, p.invalidDomain, Tag.invalidDomain⟩ invalidDomain ∧
        Fine.Leaves ⟨.spam, p.spam, Tag.spam⟩ spam ∧
        Signal.penalty (Signal.hasInvalidDomain lead) p.invalidDomain Tag.invalidDomain
          Signal.Kind.invalidDomain.opening = .ok invalidDomain := by
  have hnegative := h.negative
  cases hp : c.penalties with
  | none =>
      rw [hp] at hnegative
      refine ⟨{}, {}, {}, {}, (Except.ok.inj hnegative).symm,
        ⟨.inl rfl, .inl rfl, .inl rfl, .inl rfl⟩, fun _ => ⟨rfl, rfl, rfl, rfl⟩,
        fun p hsome => ?_⟩
      exact absurd hsome.symm (Option.some_ne_none p)
  | some p =>
      rw [hp, Signal.ofSection] at hnegative
      obtain ⟨⟨competitor, freeEmail, invalidDomain, spam⟩, ⟨⟨_, -, hcompetitor⟩,
        ⟨_, -, hfreeEmail⟩, hinvalidDomain, hspam⟩, hnegative⟩ :=
        Signal.penalties_eq_ok_iff.mp hnegative
      have hcompetitor := Fine.leaves_of_penalty
        (f := ⟨.competitor, p.competitor, Tag.competitor⟩) hcompetitor
      have hfreeEmail := Fine.leaves_of_penalty
        (f := ⟨.freeEmail, p.freeEmail, Tag.freeEmail⟩) hfreeEmail
      have hfined := Fine.leaves_of_penalty
        (f := ⟨.invalidDomain, p.invalidDomain, Tag.invalidDomain⟩) hinvalidDomain
      have hspam := Fine.leaves_of_penalty (f := ⟨.spam, p.spam, Tag.spam⟩) hspam
      refine ⟨competitor, freeEmail, invalidDomain, spam, hnegative,
        ⟨hcompetitor.isSettled, hfreeEmail.isSettled, hfined.isSettled, hspam.isSettled⟩,
        fun hnone => ?_, fun p' hsome => ?_⟩
      · exact absurd hnone (Option.some_ne_none p)
      · cases Option.some.inj hsome
        exact ⟨hcompetitor, hfreeEmail, hfined, hspam, hinvalidDomain⟩

/-- A base score is the ledger of nine signals, among them that of a wrong domain. -/
theorem exists_ledger_of_penalties (h : ofLead tables lead c = .ok b) :
    ∃ s, IsLedger lead c b s ∧ ∀ p, c.penalties = some p →
      Signal.penalty (Signal.hasInvalidDomain lead) p.invalidDomain Tag.invalidDomain
        Signal.Kind.invalidDomain.opening = .ok (s .invalidDomain) := by
  obtain ⟨s, hs, -, hcomponents, htags, htrace⟩ := ofLead_eq_ok_iff.mp h
  obtain ⟨hweights, hnoWeights, hshares⟩ := weightSignals hs
  obtain ⟨size, industry, henrichment, hsettled, hnoEnrichment, hlookups⟩ := enrichmentSignals hs
  obtain ⟨competitor, freeEmail, invalidDomain, spam, hnegative, hpenalties, hnoPenalties,
    hfines⟩ := penaltySignals hs
  refine ⟨s.byKind size industry competitor freeEmail invalidDomain spam, ?_,
    fun p hp => (hfines p hp).2.2.2.2⟩
  constructor
  case components =>
    rw [hcomponents, Signals.components, henrichment, hnegative]
    rfl
  case tags =>
    rw [htags, Signals.toList, henrichment, hnegative]
    simp [Signal.Kind.all, Signals.byKind, Signal.and]
  case trace =>
    rw [htrace, Signals.toList, henrichment, hnegative]
    simp [Signal.Kind.all, Signals.byKind, Signal.and]
  case settled =>
    intro k
    cases k with
    | jobRole => exact hweights.1
    | urgency => exact hweights.2.1
    | engagement => exact hweights.2.2
    | companySize => exact hsettled.1
    | industry => exact hsettled.2
    | competitor => exact hpenalties.1
    | freeEmail => exact hpenalties.2.1
    | invalidDomain => exact hpenalties.2.2.1
    | spam => exact hpenalties.2.2.2
  case covered =>
    intro k hk
    cases k with
    | jobRole => exact (hnoWeights (Option.not_isSome_iff_eq_none.mp hk)).1
    | urgency => exact (hnoWeights (Option.not_isSome_iff_eq_none.mp hk)).2.1
    | engagement => exact (hnoWeights (Option.not_isSome_iff_eq_none.mp hk)).2.2
    | companySize => exact (hnoEnrichment (Option.not_isSome_iff_eq_none.mp hk)).1
    | industry => exact (hnoEnrichment (Option.not_isSome_iff_eq_none.mp hk)).2
    | competitor => exact (hnoPenalties (Option.not_isSome_iff_eq_none.mp hk)).1
    | freeEmail => exact (hnoPenalties (Option.not_isSome_iff_eq_none.mp hk)).2.1
    | invalidDomain => exact (hnoPenalties (Option.not_isSome_iff_eq_none.mp hk)).2.2.1
    | spam => exact (hnoPenalties (Option.not_isSome_iff_eq_none.mp hk)).2.2.2
  case shares => exact hshares
  case lookups =>
    intro e he
    rw [Enrichment.lookups, List.forall_mem_cons, List.forall_mem_singleton]
    exact hlookups e he
  case fines =>
    intro p hp
    obtain ⟨h₁, h₂, h₃, h₄, -⟩ := hfines p hp
    simp only [Penalties.fines, List.forall_mem_cons]
    exact ⟨h₁, h₂, h₃, h₄, List.forall_mem_nil _⟩

theorem exists_ledger (h : ofLead tables lead c = .ok b) : ∃ s, IsLedger lead c b s :=
  (exists_ledger_of_penalties h).imp fun _ => And.left

/-! ## Reading the ledger -/

namespace IsLedger

variable {s : Signal.Kind → Signal} {k : Signal.Kind}

theorem filter_heads (h : IsLedger lead c b s) : b.trace.filter k.heads = (s k).trace := by
  have hlines (k' : Signal.Kind) := (h.settled k').filter_trace (k := k)
  rw [h.trace, List.filter_flatMap]
  simp only [hlines]
  cases k <;> simp [Signal.Kind.all]

/-- A line headed by a signal was left by it. -/
theorem any_heads_iff (h : IsLedger lead c b s) : b.trace.any k.heads ↔ (s k).trace ≠ [] := by
  rw [← h.filter_heads, Ne, List.filter_eq_nil_iff]
  simp

theorem any_heads_of_points_ne_zero (h : IsLedger lead c b s) (hk : (s k).points ≠ 0) :
    c.Covers k.category ∧ b.trace.any k.heads := by
  have hs : s k ≠ {} := fun hs => hk (by rw [hs])
  refine ⟨by_contra fun hcovers => hs (h.covered k hcovers), h.any_heads_iff.mpr ?_⟩
  obtain hnil | ⟨line, htrace, -⟩ := h.settled k
  · exact absurd hnil hs
  · rw [htrace]
    exact List.cons_ne_nil _ _

theorem covers_of_heads (h : IsLedger lead c b s) (hk : b.trace.any k.heads) :
    c.Covers k.category := by
  refine by_contra fun hcovers => h.any_heads_iff.mp hk ?_
  rw [h.covered k hcovers]

/-- The line of a fine is in the trace if the fine was imposed. -/
theorem line_mem_iff (h : IsLedger lead c b s) {f : Fine} :
    f.line ∈ b.trace ↔ f.line ∈ (s f.kind).trace := by
  rw [← h.filter_heads, List.mem_filter, and_iff_left f.heads_line]

theorem count_line (h : IsLedger lead c b s) {f : Fine} :
    b.trace.count f.line = (s f.kind).trace.count f.line := by
  rw [← h.filter_heads, List.count_filter f.heads_line]

theorem mem_tags (h : IsLedger lead c b s) {t : String} (ht : t ∈ (s k).tags) : t ∈ b.tags := by
  rw [h.tags, distinctTags, List.mem_eraseDups]
  exact List.mem_flatMap.mpr ⟨k, k.mem_all, ht⟩

end IsLedger

end BaseScore

end Qualify
