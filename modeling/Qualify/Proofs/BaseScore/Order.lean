import Mathlib.Data.Option.Basic
import Qualify.Proofs.BaseScore.Range
import Qualify.Proofs.Points.Order

/-!
# Base scores under more generous setups

A setup has the domains that are looked up and a scorecard.  Another one is at least as generous if
its weights and tier points are shown as no less, its penalties, without their signs, as no more,
and it has no further domain in any set (`Setup.AtMost`).  Each of the five signals of a lead then
has no fewer points, and so has the base score (`BaseScore.ofValue_mono`).
-/

namespace Qualify

/-! ## Setups -/

structure Setup where
  tables : DomainTables
  scorecard : Scorecard

namespace Weights

structure AtMost (w w' : Weights) : Prop where
  jobRole : w.jobRole.ShowsAtMost w'.jobRole
  urgency : w.urgency.ShowsAtMost w'.urgency
  engagement : w.engagement.ShowsAtMost w'.engagement

end Weights

namespace Penalties

/-- The magnitudes count, and more of them is less. -/
structure AtMost (p p' : Penalties) : Prop where
  competitor : p'.competitor.abs.ShowsAtMost p.competitor.abs
  freeEmail : p'.freeEmail.abs.ShowsAtMost p.freeEmail.abs
  invalidDomain : p'.invalidDomain.abs.ShowsAtMost p.invalidDomain.abs
  spam : p'.spam.abs.ShowsAtMost p.spam.abs

end Penalties

/-- Two tables of the same tiers, each of which the second gives no fewer points. -/
def PointTable.AtMost (t t' : PointTable) : Prop :=
  ∀ key, Option.Rel Binary64.ShowsAtMost (t.get? key) (t'.get? key)

structure Enrichment.AtMost (e e' : Enrichment) : Prop where
  companySize : e.companySize.AtMost e'.companySize
  industry : e.industry.AtMost e'.industry

namespace Setup

/-- All domains of competitors, those of the team included. -/
def competitors (a : Setup) : List String := a.tables.competitors ++ a.scorecard.competitorDomains

/-- The second setup is at least as generous as the first. -/
structure AtMost (a b : Setup) : Prop where
  weights : Option.Rel Weights.AtMost a.scorecard.weights b.scorecard.weights
  penalties : Option.Rel Penalties.AtMost a.scorecard.penalties b.scorecard.penalties
  enrichment : Option.Rel Enrichment.AtMost a.scorecard.enrichment b.scorecard.enrichment
  competitors : b.competitors ⊆ a.competitors
  freeMail : b.tables.freeMail ⊆ a.tables.freeMail
  disposable : b.tables.disposable ⊆ a.tables.disposable

end Setup

/-- Every component is no more than the one beside it. -/
structure Components.AtMost (c d : Components) : Prop where
  jobRole : c.jobRole ≤ d.jobRole
  urgency : c.urgency ≤ d.urgency
  engagement : c.engagement ≤ d.engagement
  enrichment : c.enrichment ≤ d.enrichment
  negative : c.negative ≤ d.negative

theorem Components.AtMost.total_le {c d : Components} (h : c.AtMost d) : c.total ≤ d.total :=
  add_le_add (add_le_add (add_le_add (add_le_add h.jobRole h.urgency) h.engagement) h.enrichment)
    h.negative

/-! ## Domains -/

namespace Domain

variable {domains domains' : List String} {domain : Option (List Char)}

theorem contains_mono (h : domains' ⊆ domains) {d : String} (hd : domains'.contains d) :
    domains.contains d := by
  rw [List.contains_iff_mem] at hd ⊢
  exact h hd

theorem belongsTo_mono (h : domains' ⊆ domains) (hbelongs : belongsTo domain domains') :
    belongsTo domain domains := by
  cases domain with
  | none => exact hbelongs
  | some d =>
      obtain ⟨d', hd', hcontains⟩ := List.any_eq_true.mp hbelongs
      exact List.any_eq_true.mpr ⟨d', hd', contains_mono h hcontains⟩

theorem any_contains_mono (h : domains' ⊆ domains)
    (hany : domain.any fun d => domains'.contains (String.ofList d)) :
    domain.any fun d => domains.contains (String.ofList d) := by
  cases domain with
  | none => exact hany
  | some d => exact contains_mono h hany

end Domain

/-! ## Signals -/

namespace Signal

variable {lead : Lead} {x y : Binary64} {s s' : Signal}

/-- A share of a weight that is shown as more is worth more. -/
theorem scaledPoints_le (h : x.ShowsAtMost y) {d : Decimal} (hd : IsShare d) {p q : Int}
    (hp : scaledPoints x.shown d = .ok p) (hq : scaledPoints y.shown d = .ok q) : p ≤ q := by
  obtain ⟨n, hn, rfl⟩ := hd
  exact Binary64.scaledPoints_mono h hn hp hq

/-- Of two inquiries at the same paths the second one finds something just where the first one does,
and finds it worth no less. -/
theorem Inquiry.points_le {α : Type} {i j : Inquiry α} {R : α → α → Prop}
    (hpaths : i.paths = j.paths) (hfind : ∀ text, Option.Rel R (i.find? text) (j.find? text))
    (hworth : ∀ a b, R a b → ∀ p q, i.worth a = .ok p → j.worth b = .ok q → p ≤ q)
    (hs : i.signal lead = .ok s) (hs' : j.signal lead = .ok s') : s.points ≤ s'.points := by
  have hfound : Option.Rel (fun a b => R a.2 b.2) (i.found? lead) (j.found? lead) := by
    unfold found?
    rw [hpaths]
    split
    · case h_1 text _ =>
        have hrel := hfind text
        generalize i.find? text = a at hrel
        generalize j.find? text = b at hrel
        cases hrel with
        | none => exact .none
        | some h => exact .some h
    · exact .none
  rw [signal_eq_ok_iff] at hs hs'
  obtain ⟨-, hnone, rfl⟩ | ⟨_, a, p, hsome, hp, rfl⟩ := hs
  · rw [hnone] at hfound
    obtain ⟨-, -, rfl⟩ | ⟨_, _, _, hsome', -⟩ := hs'
    · exact le_rfl
    · rw [hsome'] at hfound
      cases hfound
  · rw [hsome] at hfound
    obtain ⟨-, hnone', -⟩ | ⟨_, b, q, hsome', hq, rfl⟩ := hs'
    · rw [hnone'] at hfound
      cases hfound
    · rw [hsome'] at hfound
      cases hfound with
      | some h => exact hworth a b h p q hp hq

theorem jobRole_mono {w w' : Weights} (h : w.jobRole.ShowsAtMost w'.jobRole)
    (hs : jobRole lead w = .ok s) (hs' : jobRole lead w' = .ok s') : s.points ≤ s'.points := by
  have hshares : ∀ t ∈ Vocabulary.tiers, IsShare t.share := by decide +kernel
  have hfind : ∀ title, Option.Rel (fun t u : Vocabulary.Tier => t = u ∧ IsShare t.share)
      (seniority? title) (seniority? title) := by
    intro title
    cases htier : seniority? title with
    | none => exact .none
    | some t => exact .some ⟨rfl, hshares t (mem_tiers_of_seniority? htier)⟩
  rw [jobRole_eq_signal] at hs hs'
  refine Inquiry.points_le (i := .title w) (j := .title w') rfl hfind ?_ hs hs'
  rintro t _ ⟨rfl, hshare⟩ p q
  exact scaledPoints_le h hshare

theorem level_mono (h : x.ShowsAtMost y) {paths : List String} {levels : Vocabulary.Levels}
    (hshares : ∀ e ∈ levels, IsShare e.2) {label : String}
    (hs : level lead x paths levels label = .ok s)
    (hs' : level lead y paths levels label = .ok s') :
    s.points ≤ s'.points := by
  have hfind : ∀ text, Option.Rel (fun d d' : Decimal => d = d' ∧ IsShare d)
      (levels.lookup (normalizedLevel text)) (levels.lookup (normalizedLevel text)) := by
    intro text
    cases hlevel : levels.lookup (normalizedLevel text) with
    | none => exact .none
    | some share =>
        exact .some ⟨rfl, hshares (normalizedLevel text, share) (List.mem_of_lookup_eq_some hlevel)⟩
  rw [level_eq_signal] at hs hs'
  refine Inquiry.points_le (i := .level x paths levels label) (j := .level y paths levels label) rfl
    hfind ?_ hs hs'
  rintro d _ ⟨rfl, hshare⟩ p q
  exact scaledPoints_le h hshare

theorem tier_mono {table table' : PointTable} (h : table.AtMost table') {paths : List String}
    {label : String} (hs : tier lead paths table label = .ok s)
    (hs' : tier lead paths table' label = .ok s') : s.points ≤ s'.points := by
  rw [tier_eq_signal] at hs hs'
  exact Inquiry.points_le (i := .tier paths table label) (j := .tier paths table' label) rfl
    (fun text => h (PointTable.tierKey text)) (fun x y hxy p q => Binary64.toPoints_mono hxy.le)
    hs hs'

theorem enrichment_mono {e e' : Enrichment} (h : e.AtMost e') (hs : enrichment lead e = .ok s)
    (hs' : enrichment lead e' = .ok s') : s.points ≤ s'.points := by
  obtain ⟨size, industry, hsize, hindustry, rfl⟩ := enrichment_eq_ok_iff.mp hs
  obtain ⟨size', industry', hsize', hindustry', rfl⟩ := enrichment_eq_ok_iff.mp hs'
  exact add_le_add (tier_mono h.companySize hsize hsize')
    (tier_mono h.industry hindustry hindustry')

/-- A penalty that fires for fewer reasons and has no greater magnitude takes off no more. -/
theorem penalty_mono (h : y.abs.ShowsAtMost x.abs) {fired fired' : Bool} (hfired : fired' → fired)
    {tag line : String} (hs : penalty fired x tag line = .ok s)
    (hs' : penalty fired' y tag line = .ok s') : s.points ≤ s'.points := by
  obtain ⟨-, rfl⟩ | ⟨hfires', q, hq, rfl⟩ := penalty_eq_ok_iff.mp hs'
  · obtain ⟨-, rfl⟩ | ⟨-, p, hp, rfl⟩ := penalty_eq_ok_iff.mp hs
    · exact le_rfl
    · exact neg_nonpos_of_nonneg (Binary64.toPoints_nonneg x.value_shown_abs_nonneg hp)
  · obtain ⟨hsilent, -⟩ | ⟨-, p, hp, rfl⟩ := penalty_eq_ok_iff.mp hs
    · exact nomatch hsilent.symm.trans (hfired hfires')
    · exact neg_le_neg (Binary64.toPoints_mono h.le hq hp)

theorem penalties_mono {a b : Setup} (h : a.AtMost b) {p p' : Penalties} (hp : p.AtMost p')
    (hs : penalties a.tables lead a.scorecard.competitorDomains p = .ok s)
    (hs' : penalties b.tables lead b.scorecard.competitorDomains p' = .ok s') :
    s.points ≤ s'.points := by
  obtain ⟨f, ⟨⟨_, hflag, hcompetitor⟩, ⟨_, hmailbox, hfreeEmail⟩, hinvalidDomain, hspam⟩, rfl⟩ :=
    penalties_eq_ok_iff.mp hs
  obtain ⟨f', ⟨⟨_, hflag', hcompetitor'⟩, ⟨_, hmailbox', hfreeEmail'⟩, hinvalidDomain', hspam'⟩,
    rfl⟩ := penalties_eq_ok_iff.mp hs'
  cases hflag.symm.trans hflag'
  cases hmailbox.symm.trans hmailbox'
  refine add_le_add (add_le_add (add_le_add ?_ ?_) ?_) ?_
  · refine penalty_mono hp.competitor ?_ hcompetitor hcompetitor'
    simp only [Bool.or_eq_true]
    rintro ((hdomain | hdomain) | hflag)
    · exact .inl (.inl (Domain.belongsTo_mono h.competitors hdomain))
    · exact .inl (.inr (Domain.belongsTo_mono h.competitors hdomain))
    · exact .inr hflag
  · refine penalty_mono hp.freeEmail ?_ hfreeEmail hfreeEmail'
    simp only [Bool.or_eq_true]
    rintro (hdomain | hflag)
    · exact .inl (Domain.any_contains_mono h.freeMail hdomain)
    · exact .inr hflag
  · exact penalty_mono hp.invalidDomain id hinvalidDomain hinvalidDomain'
  · refine penalty_mono hp.spam ?_ hspam hspam'
    simp only [isSpam, Bool.or_eq_true]
    rintro (hdomain | hmailbox)
    · exact .inl (Domain.belongsTo_mono h.disposable hdomain)
    · exact .inr hmailbox

theorem ofSection_mono {α : Type} {R : α → α → Prop} {o o' : Option α} (h : Option.Rel R o o')
    {signal signal' : α → Except Failure Signal}
    (hsignal : ∀ a a' s s', R a a' → signal a = .ok s → signal' a' = .ok s' → s.points ≤ s'.points)
    (hs : ofSection o signal = .ok s) (hs' : ofSection o' signal' = .ok s') :
    s.points ≤ s'.points := by
  cases h with
  | none =>
      cases hs
      cases hs'
      exact le_rfl
  | some h => exact hsignal _ _ s s' h hs hs'

end Signal

/-! ## The base score -/

theorem Signals.OfLead.components_atMost {a b : Setup} (h : a.AtMost b) {lead : Lead}
    {s s' : Signals} (hs : s.OfLead a.tables lead a.scorecard)
    (hs' : s'.OfLead b.tables lead b.scorecard) : s.components.AtMost s'.components where
  jobRole := Signal.ofSection_mono h.weights
    (fun _ _ _ _ hw => Signal.jobRole_mono hw.jobRole) hs.jobRole hs'.jobRole
  urgency := Signal.ofSection_mono h.weights
    (fun _ _ _ _ hw => Signal.level_mono hw.urgency (by decide +kernel)) hs.urgency hs'.urgency
  engagement := Signal.ofSection_mono h.weights
    (fun _ _ _ _ hw => Signal.level_mono hw.engagement (by decide +kernel)) hs.engagement
    hs'.engagement
  enrichment := Signal.ofSection_mono h.enrichment
    (fun _ _ _ _ he => Signal.enrichment_mono he) hs.enrichment hs'.enrichment
  negative := Signal.ofSection_mono h.penalties
    (fun _ _ _ _ hp => Signal.penalties_mono h hp) hs.negative hs'.negative

namespace BaseScore

/-- Under a setup that is at least as generous as another, a lead that has a base score under both
has no less in any component, and no lower score. -/
theorem ofValue_mono {a b : Setup} (h : a.AtMost b) {cells : Cells} {v : Value} {s s' : BaseScore}
    (hs : ofValue a.tables cells v a.scorecard = .ok s)
    (hs' : ofValue b.tables cells v b.scorecard = .ok s') :
    s.components.AtMost s'.components ∧ s.score ≤ s'.score := by
  have hcomponents : s.components.AtMost s'.components := by
    unfold ofValue at hs hs'
    cases hlead : Lead.ofValue? cells v with
    | none =>
        rw [hlead] at hs hs'
        cases hs
        cases hs'
        exact ⟨le_rfl, le_rfl, le_rfl, le_rfl, le_rfl⟩
    | some lead =>
        rw [hlead] at hs hs'
        obtain ⟨signals, hsignals, -, hcomponents, -⟩ := ofLead_eq_ok_iff.mp hs
        obtain ⟨signals', hsignals', -, hcomponents', -⟩ := ofLead_eq_ok_iff.mp hs'
        rw [hcomponents, hcomponents']
        exact hsignals.components_atMost h hsignals'
  refine ⟨hcomponents, ?_⟩
  exact clampScore_mono hcomponents.total_le (clampScore_total hs) (clampScore_total hs')

/-! Of two setups the first has the lower weight, the fewer points for small companies and the
higher penalty, and takes one more provider for a free one. -/

namespace OneLead

def setup (weight points penalty : Int) (hweight : Binary64.zero.le (.ofInt weight))
    (freeMail : List String) : Setup where
  tables := { freeMail }
  scorecard := {
    weights := some {
      jobRole := .ofInt weight
      urgency := .zero
      engagement := .zero
      nonnegative := ⟨hweight, Check.zeroCeiling.2, Check.zeroCeiling.2⟩ }
    penalties := some ⟨.zero, .ofInt penalty, .zero, .zero⟩
    enrichment := some ⟨[("small", .ofInt points)], []⟩ }

def strict : Setup := setup 10 1 (-4) (by decide +kernel) ["web.de"]

def generous : Setup := setup 20 5 3 (by decide +kernel) []

def lead : Value :=
  .map [(.text "email", .text "a@web.de"),
    (.text "fields", .map [(.text "title", .text "CEO"), (.text "company_size", .text "Small")])]

theorem strict_atMost_generous : strict.AtMost generous where
  weights := .some ⟨by decide +kernel, by decide +kernel, by decide +kernel⟩
  penalties := .some ⟨by decide +kernel, by decide +kernel, by decide +kernel, by decide +kernel⟩
  enrichment := by
    refine .some ⟨fun key => ?_, fun key => .none⟩
    show Option.Rel _ (List.lookup key [("small", Binary64.ofInt 1)])
      (List.lookup key [("small", Binary64.ofInt 5)])
    rw [List.lookup_cons, List.lookup_cons]
    cases key == "small" with
    | true => exact .some (by decide +kernel)
    | false => exact .none
  competitors := List.Subset.refl _
  freeMail := List.nil_subset _
  disposable := List.Subset.refl _

end OneLead

open OneLead in
theorem ofValue_mono_oneLead :
    strict.AtMost generous ∧
      ∃ s s', ofValue strict.tables [] lead strict.scorecard = .ok s ∧
        ofValue generous.tables [] lead generous.scorecard = .ok s' ∧ s.score = 7 ∧ s'.score = 25 ∧
        s.components.AtMost s'.components ∧ s.score ≤ s'.score := by
  have hscore : ∀ {a : Setup} {n : Int},
      (ofValue a.tables [] lead a.scorecard).toOption.map BaseScore.score = some n →
        ∃ s, ofValue a.tables [] lead a.scorecard = .ok s ∧ s.score = n := by
    intro a n h
    cases hs : ofValue a.tables [] lead a.scorecard with
    | error f => simp [hs, Except.toOption] at h
    | ok s => exact ⟨s, rfl, by simpa [hs, Except.toOption] using h⟩
  obtain ⟨s, hs, hseven⟩ := hscore (a := strict) (n := 7) (by decide +kernel)
  obtain ⟨s', hs', htwentyFive⟩ := hscore (a := generous) (n := 25) (by decide +kernel)
  exact ⟨strict_atMost_generous, s, s', hs, hs', hseven, htwentyFive,
    ofValue_mono strict_atMost_generous hs hs'⟩

end BaseScore

end Qualify
