import Qualify.BaseScore
import Qualify.Proofs.Except

/-!
# How signals come about

The job role, a level and a tier are read off a lead in one way: the first text that the lead gives
at some paths is looked up, and what it is found as makes an entry with its points
(`Signal.Inquiry`).  A penalty fires or not, and takes its magnitude off if it does.  The
equivalences `Signal.Inquiry.signal_eq_ok_iff`, `Signal.penalty_eq_ok_iff` and
`Signal.penalties_eq_ok_iff` say all that there is to know of them; what is shown of a signal
elsewhere starts from these.
-/

namespace Qualify

namespace Signal

variable {lead : Lead} {s : Signal}

/-! ## Texts that are looked up -/

/-- What the text that a lead gives at some paths is looked up for, and the entry that it makes. -/
structure Inquiry (α : Type) where
  paths : List String
  find? : String → Option α
  worth : α → Except Failure Int
  tags : String → α → List String
  line : String → α → Int → String

namespace Inquiry

section

variable {α : Type} (i : Inquiry α)

/-- The text that a lead gives, with what it is found as. -/
def found? (lead : Lead) : Option (String × α) :=
  match lead.firstFilled i.paths with
  | .ok (.text text) => (i.find? text).map fun a => (text, a)
  | _ => none

def entry (text : String) (a : α) (points : Int) : Signal where
  points := points
  tags := i.tags text a
  trace := [i.line text a points]

/-- The signal that a lead gives. -/
def signal (lead : Lead) : Except Failure Signal := do
  match ← lead.firstFilled i.paths with
  | .text text =>
    match i.find? text with
    | none => return {}
    | some a => return i.entry text a (← i.worth a)
  | _ => return {}

variable {i} {text : String} {a : α}

theorem found?_eq_some_iff : i.found? lead = some (text, a) ↔
    lead.firstFilled i.paths = .ok (.text text) ∧ i.find? text = some a := by
  unfold found?
  split
  · case h_1 given hgiven =>
      rw [hgiven, Option.map_eq_some_iff]
      constructor
      · rintro ⟨a, ha, heq⟩
        cases heq
        exact ⟨rfl, ha⟩
      · rintro ⟨heq, ha⟩
        cases heq
        exact ⟨a, ha, rfl⟩
  · case h_2 hother => exact iff_of_false nofun fun h => hother text h.1

theorem found?_eq_none_iff : i.found? lead = none ↔
    ∀ text, lead.firstFilled i.paths = .ok (.text text) → i.find? text = none := by
  rw [Option.eq_none_iff_forall_ne_some, Prod.forall]
  simp only [Ne, found?_eq_some_iff, not_and, Option.eq_none_iff_forall_ne_some]
  exact forall_congr' fun text => forall_comm

theorem signal_of_found (h : i.found? lead = some (text, a)) :
    i.signal lead = i.entry text a <$> i.worth a := by
  obtain ⟨hgiven, ha⟩ := found?_eq_some_iff.mp h
  rw [signal, hgiven, Except.ok_bind, map_eq_pure_bind]
  simp only [ha]

theorem signal_of_none {v : Value} (hgiven : lead.firstFilled i.paths = .ok v)
    (h : i.found? lead = none) : i.signal lead = .ok {} := by
  rw [signal, hgiven, Except.ok_bind]
  split
  · case h_1 text =>
      rw [found?, hgiven] at h
      rw [Option.map_eq_none_iff.mp h]
      rfl
  · rfl

/-- Nothing is found of a lead, and the signal is silent; or what is found makes its entry. -/
theorem signal_eq_ok_iff : i.signal lead = .ok s ↔
    (∃ v, lead.firstFilled i.paths = .ok v) ∧ i.found? lead = none ∧ s = {} ∨
      ∃ text a q, i.found? lead = some (text, a) ∧ i.worth a = .ok q ∧ s = i.entry text a q := by
  cases hfound : i.found? lead with
  | none =>
      simp only [true_and, reduceCtorEq, false_and, exists_false, or_false]
      constructor
      · intro h
        obtain ⟨v, hv, -⟩ := Except.bind_eq_ok_iff.mp h
        rw [signal_of_none hv hfound] at h
        exact ⟨⟨v, hv⟩, (Except.ok.inj h).symm⟩
      · rintro ⟨⟨v, hv⟩, rfl⟩
        exact signal_of_none hv hfound
  | some found =>
      obtain ⟨text, a⟩ := found
      rw [signal_of_found hfound, Except.map_eq_ok_iff]
      simp [eq_comm]

end

/-! ### The three inquiries -/

/-- A job title is asked for the seniority that it tells. -/
def title (w : Weights) : Inquiry Vocabulary.Tier where
  paths := Vocabulary.titlePaths
  find? := seniority?
  worth tier := scaledPoints w.jobRole.shown tier.share
  tags _ tier := if tier.name = "executive" then [Tag.executive] else []
  line title tier points := "Job role '" ++ title ++ "' matched " ++ tier.name ++ " tier (" ++
    signedText points ++ ")"

/-- A level is asked for its share of a weight. -/
def level (weight : Binary64) (paths : List String) (levels : Vocabulary.Levels) (label : String) :
    Inquiry Decimal where
  paths := paths
  find? text := levels.lookup (normalizedLevel text)
  worth share := scaledPoints weight.shown share
  tags _ _ := []
  line text _ points := label ++ " '" ++ normalizedLevel text ++ "' (" ++ signedText points ++ ")"

/-- A tier is asked for the points that a table gives it. -/
def tier (paths : List String) (table : PointTable) (label : String) : Inquiry Binary64 where
  paths := paths
  find? text := table.get? (PointTable.tierKey text)
  worth := Binary64.toPoints
  tags text _ := [Tag.enriched, PointTable.tierKey text]
  line text _ points :=
    label ++ " '" ++ PointTable.tierKey text ++ "' (" ++ signedText points ++ ")"

end Inquiry

/-- A seniority is one of those listed. -/
theorem mem_tiers_of_seniority? {title : String} {tier : Vocabulary.Tier}
    (h : seniority? title = some tier) : tier ∈ Vocabulary.tiers := by
  unfold seniority? at h
  exact List.mem_of_find?_eq_some h

theorem jobRole_eq_signal {w : Weights} : jobRole lead w = (Inquiry.title w).signal lead := by
  refine bind_congr fun v => ?_
  cases v with
  | text title =>
      dsimp only [Inquiry.title]
      cases seniority? title with
      | none => rfl
      | some tier => rfl
  | _ => rfl

theorem level_eq_signal {weight : Binary64} {paths : List String} {levels : Vocabulary.Levels}
    {label : String} :
    level lead weight paths levels label =
      (Inquiry.level weight paths levels label).signal lead := by
  refine bind_congr fun v => ?_
  cases v with
  | text text =>
      dsimp only [Inquiry.level]
      cases levels.lookup (normalizedLevel text) with
      | none => rfl
      | some share => rfl
  | _ => rfl

theorem tier_eq_signal {paths : List String} {table : PointTable} {label : String} :
    tier lead paths table label = (Inquiry.tier paths table label).signal lead := by
  refine bind_congr fun v => ?_
  cases v with
  | text text =>
      dsimp only [Inquiry.tier]
      cases table.get? (PointTable.tierKey text) with
      | none => rfl
      | some x => rfl
  | _ => rfl

theorem enrichment_eq_ok_iff {e : Enrichment} : enrichment lead e = .ok s ↔
    ∃ size industry,
      tier lead Vocabulary.companySizePaths e.companySize "Company size" = .ok size ∧
        tier lead Vocabulary.industryPaths e.industry "Industry" = .ok industry ∧
        s = size.and industry := by
  unfold enrichment
  simp only [Except.bind_eq_ok_iff, Except.pure_eq_ok_iff, exists_and_left, @eq_comm _ s]

/-! ## Penalties -/

theorem penalty_eq_ok_iff {fired : Bool} {magnitude : Binary64} {tag line : String} :
    penalty fired magnitude tag line = .ok s ↔ fired = false ∧ s = {} ∨
      fired = true ∧ ∃ q, magnitude.abs.toPoints = .ok q ∧ s = ⟨-q, [tag], [line]⟩ := by
  cases fired with
  | false => simp [penalty, @eq_comm _ s]
  | true =>
      rw [penalty, if_pos rfl, Except.bind_eq_ok_iff]
      simp [@eq_comm _ s]

/-- The signals of the four penalties. -/
structure Fined where
  competitor : Signal
  freeEmail : Signal
  invalidDomain : Signal
  spam : Signal

namespace Fined

def total (f : Fined) : Signal :=
  ((f.competitor.and f.freeEmail).and f.invalidDomain).and f.spam

/-- These are the penalties of a lead. -/
structure OfLead (tables : DomainTables) (lead : Lead) (own : List String) (p : Penalties)
    (f : Fined) : Prop where
  competitor : ∃ flagged, isFlagged lead Vocabulary.competitorFlag = .ok flagged ∧
    penalty (Domain.belongsTo (domainOf lead) (tables.competitors ++ own) ||
      Domain.belongsTo (Address.ofValue lead.email).domain (tables.competitors ++ own) || flagged)
      p.competitor Tag.competitor "Competitor penalty applied" = .ok f.competitor
  freeEmail : ∃ flagged, isFlagged lead Vocabulary.freeMailboxFlag = .ok flagged ∧
    penalty ((Address.ofValue lead.email).domain.any
      (fun d => tables.freeMail.contains (String.ofList d)) || flagged)
      p.freeEmail Tag.freeEmail "Free email penalty" = .ok f.freeEmail
  invalidDomain : penalty (hasInvalidDomain lead) p.invalidDomain Tag.invalidDomain
    "Invalid domain penalty" = .ok f.invalidDomain
  spam : penalty (isSpam (Address.ofValue lead.email) tables.disposable) p.spam Tag.spam
    "Spam penalty applied" = .ok f.spam

end Fined

theorem penalties_eq_ok_iff {tables : DomainTables} {own : List String} {p : Penalties} :
    penalties tables lead own p = .ok s ↔
      ∃ f : Fined, f.OfLead tables lead own p ∧ s = f.total := by
  unfold penalties
  simp only [Except.bind_eq_ok_iff, Except.pure_eq_ok_iff]
  constructor
  · rintro ⟨_, hflagged, _, hflagged', competitor, hcompetitor, freeEmail, hfreeEmail,
      invalidDomain, hinvalidDomain, spam, hspam, rfl⟩
    exact ⟨⟨competitor, freeEmail, invalidDomain, spam⟩, ⟨⟨_, hflagged, hcompetitor⟩,
      ⟨_, hflagged', hfreeEmail⟩, hinvalidDomain, hspam⟩, rfl⟩
  · rintro ⟨f, ⟨⟨_, hflagged, hcompetitor⟩, ⟨_, hflagged', hfreeEmail⟩, hinvalidDomain, hspam⟩, rfl⟩
    exact ⟨_, hflagged, _, hflagged', _, hcompetitor, _, hfreeEmail, _, hinvalidDomain, _, hspam,
      rfl⟩

/-! ## Sections -/

/-- What holds of silence and of the signal of a section holds whether or not the section is
there. -/
theorem ofSection_induction {α : Type} {P : Signal → Prop} {o : Option α}
    {signal : α → Except Failure Signal} (hnil : P {})
    (hsignal : ∀ a s, o = some a → signal a = .ok s → P s) (h : ofSection o signal = .ok s) :
    P s := by
  cases o with
  | none =>
      cases h
      exact hnil
  | some a => exact hsignal a s rfl h

end Signal

end Qualify
