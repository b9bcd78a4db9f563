import Qualify.Proofs.BaseScore.Ledger

/-!
# Components, tags and trace tell the same

What a base score says of itself can be checked against the scorecard and the lead alone: its trace
lines tell which signals fired, and its components are what these signals come to.
`BaseScore.ofValue_reconciles` says so of every lead that has a base score.
-/

namespace Qualify

section

variable {α : Type} {l : List α}

/-- Terms that are left out of a sum may be so if they are zero. -/
theorem sum_map_eq_sum_filter {p : α → Bool} {f g : α → ℤ}
    (h : ∀ a ∈ l, f a = if p a then g a else 0) :
    (l.map f).sum = ((l.filter p).map g).sum := by
  rw [List.map_congr_left h, List.sum_map_ite]
  simp

theorem nodup_eraseDups [BEq α] [LawfulBEq α] (l : List α) : l.eraseDups.Nodup := by
  match l with
  | [] => exact List.nodup_nil
  | a :: l =>
      rw [List.eraseDups_cons, List.nodup_cons]
      refine ⟨fun hmem => ?_, nodup_eraseDups _⟩
      rw [List.mem_eraseDups, List.mem_filter] at hmem
      simp at hmem
termination_by l.length
decreasing_by
  exact Nat.lt_succ_of_le (List.length_filter_le _ _)

end

namespace BaseScore

/-- The books of a base score are in order. -/
structure Reconciles (lead : Lead) (c : Scorecard) (b : BaseScore) : Prop where
  categories : b.components.entries.map Prod.fst =
    ["jobRole", "urgency", "engagement", "enrichment", "negative"]
  /-- The first three components are shares of their weights. -/
  shares : ∀ w, c.weights = some w → w.jobRole.IsShareOf b.components.jobRole ∧
    w.urgency.IsShareOf b.components.urgency ∧ w.engagement.IsShareOf b.components.engagement
  /-- An enrichment is the sum of the lookups with a line in the trace. -/
  enrichment : ∀ e, c.enrichment = some e → b.components.enrichment =
    ((e.lookups.filter fun l => b.trace.any l.kind.heads).map fun l => l.points lead).sum
  /-- These are the lookups that found a tier, and a tier that was found is worth points. -/
  lookups : ∀ e, c.enrichment = some e → ∀ l ∈ e.lookups,
    (b.trace.any l.kind.heads ↔ (l.found? lead).isSome) ∧
    ∀ t, l.found? lead = some t → t.2.HasPoints
  /-- What is taken off is the sum of the fines with their line in the trace. -/
  negative : ∀ p, c.penalties = some p → b.components.negative =
    -((p.fines.filter fun f => f.line ∈ b.trace).map fun f => f.magnitude.abs.points).sum
  /-- Such a fine is worth points, has its tag and was imposed once. -/
  fines : ∀ p, c.penalties = some p → ∀ f ∈ p.fines, f.line ∈ b.trace →
    f.magnitude.abs.HasPoints ∧ f.tag ∈ b.tags ∧ b.trace.count f.line = 1
  /-- A component that is not zero comes from a section that is there, and has a line. -/
  accounted : ∀ category, b.components.of category ≠ 0 →
    c.Covers category ∧ ∃ k : Signal.Kind, k.category = category ∧ b.trace.any k.heads
  /-- No line comes from a section that is missing. -/
  covered : ∀ k : Signal.Kind, b.trace.any k.heads → c.Covers k.category
  /-- The lines are those of different signals, in their order. -/
  ordered : ∃ fired, List.Sublist fired Signal.Kind.all ∧
    List.Forall₂ (fun (k : Signal.Kind) line => k.heads line) fired b.trace
  /-- There is at most one line of each signal. -/
  single : ∀ k : Signal.Kind, (b.trace.filter k.heads).length ≤ 1
  distinct : b.tags.Nodup
  score : clampScore b.components.total = .ok b.score ∧
    b.score = max 0 (min 100 b.components.total)

variable {tables : DomainTables} {lead : Lead} {c : Scorecard} {b : BaseScore}
variable {s : Signal.Kind → Signal}

namespace IsLedger

theorem enrichment_eq (h : IsLedger lead c b s) {e : Enrichment} (he : c.enrichment = some e) :
    b.components.enrichment =
      ((e.lookups.filter fun l => b.trace.any l.kind.heads).map fun l => l.points lead).sum := by
  have hpoints : ∀ l ∈ e.lookups,
      (s l.kind).points = if b.trace.any l.kind.heads then l.points lead else 0 := by
    intro l hl
    have hleaves := h.lookups e he l hl
    split
    · case isTrue => exact hleaves.points_eq
    · case isFalse hheads =>
        rw [h.any_heads_iff, hleaves.trace_ne_nil_iff, Option.not_isSome_iff_eq_none] at hheads
        rw [hleaves.points_eq, Lookup.points, hheads]
        rfl
  rw [← sum_map_eq_sum_filter hpoints, h.components]
  simp [Enrichment.lookups]

theorem negative_eq (h : IsLedger lead c b s) {p : Penalties} (hp : c.penalties = some p) :
    b.components.negative =
      -((p.fines.filter fun f => f.line ∈ b.trace).map fun f => f.magnitude.abs.points).sum := by
  have hpoints : ∀ f ∈ p.fines, (s f.kind).points =
      if decide (f.line ∈ b.trace) then -f.magnitude.abs.points else 0 := by
    intro f hf
    obtain hnil | ⟨q, hq, himposed⟩ := h.fines p hp f hf
    · simp [h.line_mem_iff, hnil]
    · simp [h.line_mem_iff, himposed, Binary64.points_eq hq]
  rw [List.sum_neg, List.map_map, Function.comp_def, ← sum_map_eq_sum_filter hpoints, h.components]
  simp [Penalties.fines, add_assoc]

theorem fine_line (h : IsLedger lead c b s) {p : Penalties} (hp : c.penalties = some p) {f : Fine}
    (hf : f ∈ p.fines) (hline : f.line ∈ b.trace) :
    f.magnitude.abs.HasPoints ∧ f.tag ∈ b.tags ∧ b.trace.count f.line = 1 := by
  rw [h.line_mem_iff] at hline
  obtain hnil | ⟨q, hq, himposed⟩ := h.fines p hp f hf
  · rw [hnil] at hline
    cases hline
  · refine ⟨⟨q, hq⟩, h.mem_tags (k := f.kind) ?_, ?_⟩
    · rw [himposed]
      exact List.mem_singleton_self _
    · rw [h.count_line, himposed, List.count_singleton_self]

theorem accounted (h : IsLedger lead c b s) {category : Category}
    (hne : b.components.of category ≠ 0) :
    c.Covers category ∧ ∃ k : Signal.Kind, k.category = category ∧ b.trace.any k.heads := by
  have hpoints : ∃ k : Signal.Kind, k.category = category ∧ (s k).points ≠ 0 := by
    by_contra hall
    push Not at hall
    refine hne ?_
    rw [h.components]
    cases category with
    | jobRole => exact hall .jobRole rfl
    | urgency => exact hall .urgency rfl
    | engagement => exact hall .engagement rfl
    | enrichment => simp [Components.of, hall .companySize rfl, hall .industry rfl]
    | negative =>
        simp [Components.of, hall .competitor rfl, hall .freeEmail rfl, hall .invalidDomain rfl,
          hall .spam rfl]
  obtain ⟨k, rfl, hk⟩ := hpoints
  obtain ⟨hcovers, hheads⟩ := h.any_heads_of_points_ne_zero hk
  exact ⟨hcovers, k, rfl, hheads⟩

/-- The lines of some signals, in the order of these. -/
theorem forall₂_heads (h : IsLedger lead c b s) (ks : List Signal.Kind) :
    List.Forall₂ (fun (k : Signal.Kind) line => k.heads line)
      (ks.filter fun k => !(s k).trace.isEmpty) (ks.flatMap fun k => (s k).trace) := by
  induction ks with
  | nil => exact .nil
  | cons k ks ih =>
      rw [List.flatMap_cons]
      obtain hnil | ⟨line, htrace, hheads⟩ := h.settled k
      · simpa [hnil] using ih
      · simpa [htrace] using ⟨hheads, ih⟩

end IsLedger

/-- The base score of every lead that has one is in order: components, tags and trace lines tell the
same.  A weight of so many digits that it is worth no points bounds its shares, too; see
`Binary64.IsShareOf`. -/
theorem ofValue_reconciles {cells : Cells} {v : Value} (hlead : Lead.ofValue? cells v = some lead)
    (h : ofValue tables cells v c = .ok b) : b.Reconciles lead c := by
  have hscore := clampScore_total h
  rw [ofValue, hlead] at h
  obtain ⟨s, hs⟩ := exists_ledger h
  constructor
  case categories => rfl
  case shares =>
    intro w hw
    rw [hs.components]
    exact hs.shares w hw
  case enrichment => exact fun e he => hs.enrichment_eq he
  case lookups =>
    intro e he l hl
    have hleaves := hs.lookups e he l hl
    refine ⟨hs.any_heads_iff.trans hleaves.trace_ne_nil_iff, fun t ht => ?_⟩
    obtain ⟨hnone, -⟩ | ⟨key, x, hsome, hx, -⟩ := hleaves
    · rw [hnone] at ht
      cases ht
    · cases ht.symm.trans hsome
      exact ⟨_, hx⟩
  case negative => exact fun p hp => hs.negative_eq hp
  case fines => exact fun p hp f hf hline => hs.fine_line hp hf hline
  case accounted => exact fun category hne => hs.accounted hne
  case covered => exact fun k hk => hs.covers_of_heads hk
  case ordered =>
    have hheads := hs.forall₂_heads Signal.Kind.all
    rw [← hs.trace] at hheads
    exact ⟨_, List.filter_sublist, hheads⟩
  case single =>
    intro k
    rw [hs.filter_heads]
    exact (hs.settled k).length_trace_le
  case distinct =>
    rw [hs.tags]
    exact nodup_eraseDups _
  case score => exact ⟨hscore, (clampScore_eq_ok_iff.mp hscore).2⟩

/-! A lead from an industry that is called like the tag of a penalty, which it gets as well. -/

namespace SpamIndustry

def scorecard : Scorecard where
  weights := some {
    jobRole := .ofRatio false 21 2
    urgency := .zero
    engagement := .zero
    nonnegative := by decide +kernel }
  penalties := some ⟨.zero, .ofInt 3, .zero, .ofRatio true 3 2⟩
  enrichment := some ⟨[], [("spam", .ofRatio true 5 2)]⟩

def value : Value :=
  .map [(.text "email", .text "test@web.de"),
    (.text "fields", .map [(.text "title", .text "VP Sales"), (.text "industry", .text "Spam")])]

def base : BaseScore where
  score := 1
  components := { jobRole := 9, enrichment := -3, negative := -5 }
  tags := [Tag.enriched, Tag.spam, Tag.freeEmail]
  trace := ["Job role 'VP Sales' matched vice_president tier (+9)", "Industry 'spam' (-3)",
    "Free email penalty", "Spam penalty applied"]

end SpamIndustry

open SpamIndustry in
theorem ofValue_reconciles_spamIndustry :
    ∃ lead, Lead.ofValue? [] value = some lead ∧ ofValue {} [] value scorecard = .ok base ∧
      base.Reconciles lead scorecard := by
  have hscore : ofValue {} [] value scorecard = .ok base := by decide +kernel
  exact ⟨_, rfl, hscore, ofValue_reconciles rfl hscore⟩

end BaseScore

end Qualify
