import Qualify.Proofs.Application.Conjunction
import Qualify.Proofs.BaseScore.Ledger
import Qualify.Proofs.Check.Number
import Qualify.Proofs.Number.Whole
import Qualify.Proofs.Outcome.Weight
import Qualify.Proofs.Scorecard.Written
import Qualify.Proofs.Source.Teams

/-!
# Configured integers

Points are given as data.  They are read as a binary number, shown as a decimal and rounded, and an
integer of at most 53 binary digits comes through this as it is (`Check.exists_number_isInteger`).
What is left to show for each of the four places where points are configured is that nothing else is
done to them on the way: the adjustment of a conditional rule under either of its keys, the table of
a weight rule, the magnitude of a penalty and the table of a tier (`integers_count_exactly`).
-/

namespace Qualify

/-- The value is an integer of at most 53 binary digits, whichever way it is written. -/
structure Value.IsInteger (v : Value) (n : ℤ) : Prop where
  denotes : v.Denotes n
  abs_le : |n| ≤ 2 ^ 53

variable {w : Value} {n : ℤ} {x : Binary64}

/-- Such an integer is read as itself. -/
theorem Check.exists_number_isInteger (h : w.IsInteger n) :
    ∃ x, number w = .valid x ∧ x.IsInteger n := by
  have hsmall : |(n : ℚ)| < 10 ^ 27 := by
    have hcast : |(n : ℚ)| ≤ 2 ^ 53 := by exact_mod_cast h.abs_le
    exact hcast.trans_lt (by norm_num)
  obtain ⟨x, hx, hnearest⟩ := exists_number h.denotes hsmall
  exact ⟨x, hx, hnearest.isInteger h.abs_le⟩

theorem Check.isInteger_of_number (h : w.IsInteger n) (hx : number w = .valid x) :
    x.IsInteger n := by
  obtain ⟨y, hy, hinteger⟩ := exists_number_isInteger h
  cases hx.symm.trans hy
  exact hinteger

/-! ## Adjustments -/

namespace Check

variable {es fs : Entries} {reason : Option String}

/-- An action gives its points under one of two keys, the second of which counts only where the
first is missing. -/
inductive GivesPoints (es : Entries) (w : Value) : Prop
  | adjust (h : Value.lookup "adjust" es = some w)
  | add (hnone : Value.lookup "adjust" es = none) (h : Value.lookup "add" es = some w)

/-- The entries with the second key called like the first. -/
def renamed (es : Entries) : Entries :=
  es.map fun e => if e.1.text? == some "add" then (.text "adjust", e.2) else e

theorem renamed_add (v : Value) (es : Entries) :
    renamed ((.text "add", v) :: es) = (.text "adjust", v) :: renamed es := rfl

theorem renamed_of_ne {e : Value × Value} (h : e.1 ≠ .text "add") (es : Entries) :
    renamed (e :: es) = e :: renamed es := by
  have hkey : (e.1.text? == some "add") = false := by
    obtain ⟨k, v⟩ := e
    cases k with
    | text s => simpa [Value.text?] using fun hs : s = "add" => h (congrArg Value.text hs)
    | _ => rfl
  rw [renamed, List.map_cons, hkey]
  rfl

theorem lookup_renamed (h : Value.lookup "adjust" es = none) :
    Value.lookup "adjust" (renamed es) = Value.lookup "add" es := by
  induction es with
  | nil => rfl
  | cons e es ih =>
      obtain ⟨k, v⟩ := e
      have hadjust : k ≠ .text "adjust" := by
        rintro rfl
        rw [Value.lookup_cons_self] at h
        cases h
      rw [Value.lookup_cons_of_ne hadjust] at h
      by_cases hadd : k = .text "add"
      · rw [hadd, renamed_add, Value.lookup_cons_self, Value.lookup_cons_self]
      · rw [renamed_of_ne hadd, Value.lookup_cons_of_ne hadjust, Value.lookup_cons_of_ne hadd, ih h]

/-- An action is read with the points that it gives. -/
theorem action_eq_valid (h : GivesPoints es w) (hx : number w = .valid x)
    (hreason : optional ["reason"] none (nullable text) es = .valid reason) :
    action (.map es) = .valid (x, reason) := by
  have hread : ∀ fs, Value.lookup "adjust" fs = some w →
      required ["adjust", "add"] number fs = .valid x := by
    intro fs hfs
    refine required_eq_valid_iff.mpr ⟨"adjust", w, ?_, hx⟩
    rw [find?, hfs]
  cases h with
  | adjust h =>
      simp only [action, record, Checked.andThen_valid, h, Option.isNone_some, Bool.false_eq_true,
        if_false, Checked.seq_eq_valid_iff, Checked.fmap_eq_valid_iff]
      exact ⟨_, ⟨x, hread es h, rfl⟩, reason, hreason, rfl⟩
  | add hnone h =>
      simp only [action, record, Checked.andThen_valid, hnone, Option.isNone_none, if_true,
        Checked.seq_eq_valid_iff, Checked.fmap_eq_valid_iff]
      exact ⟨_, ⟨x, hread (renamed es) ((lookup_renamed hnone).trans h), rfl⟩, reason, hreason, rfl⟩

end Check

/-- The rule is in use, and has these conditions for the points that its action gives. -/
structure Rule.Adds (r : Rule) (conditions : List Condition) (w : Value) : Prop where
  enabled : r.enabled
  kind : r.kind = .ifThen
  definition : ∃ es fs, r.definition = .map es ∧
    Check.required ["if", "conditions"] (Check.nonemptyListOf Check.condition) es =
      .valid conditions ∧
    Value.lookup "then" es = some (.map fs) ∧ Check.GivesPoints fs w ∧
    ∃ reason, Check.optional ["reason"] none (Check.nullable Check.text) fs = .valid reason

theorem Rule.Adds.exists_isConditional {r : Rule} {conditions : List Condition}
    (h : r.Adds conditions w) (hx : Check.number w = .valid x) :
    ∃ reason, r.IsConditional conditions x reason := by
  obtain ⟨es, fs, hdefinition, hconditions, hthen, hpoints, reason, hreason⟩ := h.definition
  refine ⟨reason, h.enabled, ?_⟩
  have hread : Check.ifThen es = .valid (.ifThen conditions x reason) := by
    simp only [Check.ifThen, Checked.seq_eq_valid_iff, Checked.fmap_eq_valid_iff]
    exact ⟨_, ⟨conditions, hconditions, rfl⟩, _, Check.required_singleton_eq_valid_iff.mpr
      ⟨_, hthen, Check.action_eq_valid hpoints hx hreason⟩, rfl⟩
  simp [readDefinition, hdefinition, h.kind, Check.definition, hread]

/-! ## Tables of weights -/

/-- Where keys differ, the entry under a text is the one that is found. -/
theorem Value.HasTextKeys.lookup_of_mem {es : List (Value × Value)} (h : HasTextKeys es)
    {key : String} {v : Value} (hmem : (.text key, v) ∈ es) : lookup key es = some v := by
  induction es with
  | nil => cases hmem
  | cons e es ih =>
      obtain ⟨k, u⟩ := e
      obtain ⟨hes, t, rfl, hnew⟩ := h.of_cons
      rcases List.mem_cons.mp hmem with heq | hmem
      · cases heq
        exact lookup_cons_self key v es
      · rw [lookup_cons_of_ne (hnew _ hmem).symm, ih hes hmem]

namespace Check

variable {α : Type} {read : Value → Checked α} {es fs : Entries} {key : String}

/-- Entries with texts as keys make a table if each of their values can be read. -/
theorem exists_tableEntries {keys : List String} (hkeys : es.map Prod.fst = keys.map Value.text)
    (h : ∀ e ∈ es, ∃ a, read e.2 = .valid a) :
    ∃ rows, tableEntries read es = .valid rows ∧ rows.map Prod.fst = keys := by
  induction es generalizing keys with
  | nil =>
      obtain rfl := List.map_eq_nil_iff.mp hkeys.symm
      exact ⟨[], rfl, rfl⟩
  | cons e es ih =>
      obtain ⟨t, keys, rfl, ht, htail⟩ := List.map_eq_cons_iff.mp hkeys.symm
      obtain ⟨hread, hrest⟩ := List.forall_mem_cons.mp h
      obtain ⟨a, ha⟩ := hread
      obtain ⟨rows, hrows, hnames⟩ := ih htail.symm hrest
      refine ⟨(t, a) :: rows, ?_, by rw [List.map_cons, hnames]⟩
      rw [tableEntries_eq_valid_iff] at hrows ⊢
      exact .cons ⟨by rw [← ht, text, textOf?], ha⟩ hrows

/-- A table of weights is read, and gives the points under each key that stand under its text. -/
theorem exists_weightTable {ws : Entries} (hfs : withTextKeys ws = .ok fs)
    (hw : Value.lookup key fs = some w) (hx : number w = .valid x)
    (h : ∀ e ∈ fs, e.1 ≠ .text key → ∃ y, number e.2 = .valid y) :
    ∃ table, weightTable (.map ws) = .valid table ∧ table.get? key = some x := by
  have htexts := hasTextKeys_withTextKeys hfs
  have hreads : ∀ e ∈ fs, ∃ y, number e.2 = .valid y := by
    intro e he
    by_cases hkey : e.1 = .text key
    · have hown : Value.lookup key fs = some e.2 := htexts.lookup_of_mem (hkey ▸ he)
      cases hw.symm.trans hown
      exact ⟨x, hx⟩
    · exact h e he hkey
  obtain ⟨keys, hnodup, hkeys⟩ := htexts
  obtain ⟨rows, hrows, hnames⟩ := exists_tableEntries hkeys hreads
  obtain ⟨y, hy, hlookup⟩ := lookup_tableEntries ⟨keys, hnodup, hkeys⟩ hrows hw
  cases hx.symm.trans hy
  refine ⟨rows, ?_, hlookup⟩
  rw [weightTable, hfs, Checked.ofExcept, Checked.andThen_valid, pointTable, tableOf, hrows,
    Checked.map_valid, PointTable.ofEntries_of_nodup (hnames ▸ hnodup)]

end Check

/-- The rule is in use, and its table gives points under the text of a key to leads that are looked
up by that text in a field. -/
structure Rule.Weighs (r : Rule) (field key : String) (w : Value) : Prop where
  enabled : r.enabled
  kind : r.kind = .weight
  definition : ∃ es ws fs, r.definition = .map es ∧
    Check.required ["field"] Check.nonemptyText es = .valid field ∧
    Value.lookup "weights" es = some (.map ws) ∧ Check.withTextKeys ws = .ok fs ∧
    Value.lookup key fs = some w ∧
    (∀ e ∈ fs, e.1 ≠ .text key → ∃ y, Check.number e.2 = .valid y) ∧
    ∃ reason, Check.optional ["reason"] none (Check.nullable Check.text) es = .valid reason

namespace Rule.Weighs

variable {r : Rule} {field key : String}

theorem exists_readDefinition (h : r.Weighs field key w) (hx : Check.number w = .valid x) :
    field ≠ "" ∧ ∃ table reason, r.readDefinition = .ok (.weight field table reason) ∧
      table.get? key = some x := by
  obtain ⟨es, ws, fs, hdefinition, hfield, hweights, hfs, hw, hothers, reason, hreason⟩ :=
    h.definition
  obtain ⟨table, htable, hget⟩ := Check.exists_weightTable hfs hw hx hothers
  have hne : field ≠ "" := by
    obtain ⟨_, _, -, htext⟩ := Check.required_eq_valid_iff.mp hfield
    exact Check.ne_empty_of_nonemptyText htext
  have hread : Check.weightRule es = .valid (.weight field table reason) := by
    simp only [Check.weightRule, Checked.seq_eq_valid_iff, Checked.fmap_eq_valid_iff]
    exact ⟨_, ⟨_, ⟨field, hfield, rfl⟩, _,
      Check.required_singleton_eq_valid_iff.mpr ⟨_, hweights, htable⟩, rfl⟩, reason, hreason, rfl⟩
  refine ⟨hne, table, reason, ?_, hget⟩
  simp [readDefinition, hdefinition, h.kind, Check.definition, hread]

/-- The rule is applied to every lead that is looked up by the key. -/
theorem exists_verdict_eq (h : r.Weighs field key w) (hx : Check.number w = .valid x)
    (hpoints : x.toPoints = .ok n) {cells : Cells} {root v : Value}
    (hresolve : root.resolve cells field = .ok v) (hkey : weightKey v = .ok (some key)) :
    ∃ reason, r.verdict cells root = .applied ⟨reason, n⟩ := by
  obtain ⟨hfield, table, reason, hread, hget⟩ := h.exists_readDefinition hx
  obtain ⟨derived, hderived⟩ := exists_weightReason hfield
  refine ⟨(givenReason reason).getD derived, ?_⟩
  rw [verdict, h.enabled, hread]
  simp only [Definition.adjustment?, hresolve, hkey, Except.ok_bind, hget]
  cases hgiven : givenReason reason with
  | none => simp [hderived, hpoints]
  | some given => simp [hpoints]

end Rule.Weighs

/-! ## Penalties and tiers -/

namespace Signal.Kind

/-- The key of the section of a scorecard that a signal is configured in. -/
def sectionKey (k : Kind) : String :=
  match k.category with
  | .jobRole | .urgency | .engagement => "weights"
  | .enrichment => "enrichment"
  | .negative => "negative"

/-- The keys in that section that a signal may be configured under. -/
def keys : Kind → List String
  | jobRole => ["jobRole", "job_role"]
  | urgency => ["urgency"]
  | engagement => ["engagement"]
  | companySize => ["companySize", "company_size"]
  | industry => ["industry"]
  | competitor => ["competitor"]
  | freeEmail => ["freeEmail", "free_email"]
  | invalidDomain => ["invalidDomain", "invalid_domain"]
  | spam => ["spam"]

end Signal.Kind

namespace Check

variable {es ts : Entries} {c : Scorecard}

/-- The data of a scorecard give a value for a signal. -/
def Configures (es : Entries) (k : Signal.Kind) (w : Value) : Prop :=
  ∃ fs key, Value.lookup k.sectionKey es = some (.map fs) ∧ find? fs k.keys = some (key, w)

theorem valid_of_optional {α : Type} {read : Value → Checked α} {keys : List String} {a default : α}
    {key : String} (h : optional keys default read es = .valid a)
    (hw : find? es keys = some (key, w)) : read w = .valid a := by
  rcases optional_eq_valid_iff.mp h with ⟨hnone, -⟩ | ⟨_, _, hfind, hread⟩
  · cases hw.symm.trans hnone
  · cases hw.symm.trans hfind
    exact hread

/-- A section that is given as a mapping is read from it. -/
theorem section_eq_valid {α : Type} {read : Value → Checked α} {a : α} {key : String} {fs : Entries}
    (h : optional [key] none (nullable read) es = .valid (some a))
    (hsection : Value.lookup key es = some (.map fs)) : read (.map fs) = .valid a :=
  (nullable_eq_valid_some_iff.mp (valid_of_optional h (find?_singleton.mpr ⟨rfl, hsection⟩))).2

theorem penalties_map_eq_valid_iff {p : Penalties} :
    penalties (.map es) = .valid p ↔
      optional ["competitor"] .zero number es = .valid p.competitor ∧
      optional ["freeEmail", "free_email"] .zero number es = .valid p.freeEmail ∧
      optional ["invalidDomain", "invalid_domain"] .zero number es = .valid p.invalidDomain ∧
      optional ["spam"] .zero number es = .valid p.spam := by
  simp only [penalties, record, Checked.andThen_valid, Checked.seq_eq_valid_iff,
    Checked.fmap_eq_valid_iff]
  constructor
  · rintro ⟨_, ⟨_, ⟨_, ⟨_, h₁, rfl⟩, _, h₂, rfl⟩, _, h₃, rfl⟩, _, h₄, rfl⟩
    exact ⟨h₁, h₂, h₃, h₄⟩
  · rintro ⟨h₁, h₂, h₃, h₄⟩
    exact ⟨_, ⟨_, ⟨_, ⟨_, h₁, rfl⟩, _, h₂, rfl⟩, _, h₃, rfl⟩, _, h₄, rfl⟩

theorem enrichment_map_eq_valid_iff {e : Enrichment} :
    enrichment (.map es) = .valid e ↔
      optional ["companySize", "company_size"] [] tierTable es = .valid e.companySize ∧
      optional ["industry"] [] tierTable es = .valid e.industry := by
  simp only [enrichment, record, Checked.andThen_valid, Checked.seq_eq_valid_iff,
    Checked.fmap_eq_valid_iff]
  constructor
  · rintro ⟨_, ⟨_, hsize, rfl⟩, _, hindustry, rfl⟩
    exact ⟨hsize, hindustry⟩
  · rintro ⟨hsize, hindustry⟩
    exact ⟨_, ⟨_, hsize, rfl⟩, _, hindustry, rfl⟩

/-- The magnitude of a fine is the number that the data give for it. -/
theorem number_of_fine (hc : scorecard (.map es) = .valid c) {p : Penalties}
    (hp : c.penalties = some p) {f : Fine} (hf : f ∈ p.fines) (hw : Configures es f.kind w) :
    number w = .valid f.magnitude := by
  obtain ⟨fs, key, hsection, hfind⟩ := hw
  obtain ⟨-, -, -, -, hpenalties, -⟩ := scorecard_map_eq_valid_iff.mp hc
  have hkey : f.kind.sectionKey = "negative" := by
    revert f
    simp [Penalties.fines, Signal.Kind.sectionKey, Signal.Kind.category]
  rw [hp] at hpenalties
  rw [hkey] at hsection
  obtain ⟨hcompetitor, hfreeEmail, hinvalidDomain, hspam⟩ :=
    penalties_map_eq_valid_iff.mp (section_eq_valid hpenalties hsection)
  simp only [Penalties.fines, List.mem_cons, List.not_mem_nil, or_false] at hf
  rcases hf with rfl | rfl | rfl | rfl
  · exact valid_of_optional hcompetitor hfind
  · exact valid_of_optional hfreeEmail hfind
  · exact valid_of_optional hinvalidDomain hfind
  · exact valid_of_optional hspam hfind

/-- The table of a lookup is the one that the data give for it. -/
theorem tierTable_of_lookup (hc : scorecard (.map es) = .valid c) {e : Enrichment}
    (he : c.enrichment = some e) {l : Lookup} (hl : l ∈ e.lookups) (hw : Configures es l.kind w) :
    tierTable w = .valid l.table := by
  obtain ⟨fs, key, hsection, hfind⟩ := hw
  obtain ⟨-, -, -, -, -, henrichment, -⟩ := scorecard_map_eq_valid_iff.mp hc
  have hkey : l.kind.sectionKey = "enrichment" := by
    revert l
    simp [Enrichment.lookups, Signal.Kind.sectionKey, Signal.Kind.category]
  rw [he] at henrichment
  rw [hkey] at hsection
  obtain ⟨hsize, hindustry⟩ :=
    enrichment_map_eq_valid_iff.mp (section_eq_valid henrichment hsection)
  simp only [Enrichment.lookups, List.mem_cons, List.not_mem_nil, or_false] at hl
  rcases hl with rfl | rfl
  · exact valid_of_optional hsize hfind
  · exact valid_of_optional hindustry hfind

end Check

/-- What is found under a tier is the number of an entry whose key is read as that tier. -/
theorem Check.exists_entry_of_get? {ts : Entries} {t : PointTable}
    (h : tierTable (.map ts) = .valid t) {key : String} (hx : t.get? key = some x) :
    ∃ e ∈ ts, ∃ s, text e.1 = .valid s ∧ PointTable.tierKey s = key ∧ number e.2 = .valid x := by
  obtain ⟨t', hread, rfl⟩ := Checked.fmap_eq_valid_iff.mp h
  obtain ⟨rows, hrows, rfl⟩ := Checked.fmap_eq_valid_iff.mp hread
  obtain ⟨row, hrow, heq⟩ :=
    List.mem_map.mp (PointTable.mem_of_mem_ofEntries (List.mem_of_lookup_eq_some hx))
  obtain ⟨htier, hpoints⟩ := Prod.mk.inj heq
  have hmem : row ∈ rows := PointTable.mem_of_mem_ofEntries hrow
  obtain ⟨e, he, htext, hnumber⟩ :=
    (tableEntries_eq_valid_iff.mp hrows).flip.exists_mem_of_mem hmem
  exact ⟨e, he, row.1, htext, htier, hpoints ▸ hnumber⟩

namespace BaseScore

variable {tables : DomainTables} {lead : Lead} {c : Scorecard} {b : BaseScore}

/-- A fine takes its magnitude off where its line is in the trace, and else nothing. -/
theorem exists_fined (hb : ofLead tables lead c = .ok b) {p : Penalties} (hp : c.penalties = some p)
    {f : Fine} (hf : f ∈ p.fines) (hpoints : f.magnitude.abs.toPoints = .ok |n|) :
    ∃ s, IsLedger lead c b s ∧
      (s f.kind).points = if b.trace.any f.kind.heads then -|n| else 0 := by
  obtain ⟨s, hs⟩ := exists_ledger hb
  refine ⟨s, hs, ?_⟩
  rcases hs.fines p hp f hf with hnone | ⟨q, hq, hfined⟩
  · have hsilent : ¬ b.trace.any f.kind.heads := by
      rw [hs.any_heads_iff, hnone]
      exact fun h => h rfl
    rw [if_neg hsilent, hnone]
  · have hfires : b.trace.any f.kind.heads := by
      rw [hs.any_heads_iff, hfined]
      exact List.cons_ne_nil _ _
    cases hpoints.symm.trans hq
    rw [if_pos hfires, hfined]

/-- A lookup that finds a tier counts its points. -/
theorem exists_found (hb : ofLead tables lead c = .ok b) {e : Enrichment}
    (he : c.enrichment = some e) {l : Lookup} (hl : l ∈ e.lookups) {key : String}
    (hfound : l.found? lead = some (key, x)) (hpoints : x.toPoints = .ok n) :
    ∃ s, IsLedger lead c b s ∧ (s l.kind).points = n := by
  obtain ⟨s, hs⟩ := exists_ledger hb
  refine ⟨s, hs, ?_⟩
  rcases hs.lookups e he l hl with ⟨hnone, -⟩ | ⟨_, y, hsome, hy, -⟩
  · cases hfound.symm.trans hnone
  · cases hfound.symm.trans hsome
    exact (Except.ok.inj (hpoints.symm.trans hy)).symm

end BaseScore

/-- A lookup finds the tier that a lead names first, if its table has it. -/
theorem Lookup.found?_eq_some_iff {l : Lookup} {lead : Lead} {key : String} :
    l.found? lead = some (key, x) ↔ ∃ s, lead.firstFilled l.paths = .ok (.text s) ∧
      PointTable.tierKey s = key ∧ l.table.get? key = some x := by
  unfold found?
  split
  · case h_1 s hs =>
      rw [Option.map_eq_some_iff]
      constructor
      · rintro ⟨y, hy, heq⟩
        obtain ⟨rfl, rfl⟩ := Prod.mk.inj heq
        exact ⟨s, hs, rfl, hy⟩
      · rintro ⟨t, ht, rfl, hx⟩
        obtain rfl : s = t := Value.text.inj (Except.ok.inj (hs.symm.trans ht))
        exact ⟨x, hx, rfl⟩
  · case h_2 hother => exact iff_of_false nofun fun ⟨s, hs, _⟩ => hother s hs

theorem Signal.penalty_eq_of_isInteger {magnitude : Binary64} (h : magnitude.IsInteger n)
    (fired : Bool) (tag line : String) :
    penalty fired magnitude tag line = .ok (if fired then ⟨-|n|, [tag], [line]⟩ else {}) := by
  cases fired with
  | false => rfl
  | true =>
      rw [penalty, if_pos rfl, Binary64.toPoints_abs h.toPoints_eq]
      rfl

theorem Signal.tier_eq_of_isInteger {lead : Lead} {l : Lookup} {key : String}
    (hfound : l.found? lead = some (key, x)) (h : x.IsInteger n) (label : String) :
    tier lead l.paths l.table label = .ok ⟨n, [Tag.enriched, key],
      [label ++ " '" ++ key ++ "' (" ++ signedText n ++ ")"]⟩ := by
  obtain ⟨s, hs, rfl, hx⟩ := Lookup.found?_eq_some_iff.mp hfound
  rw [tier_eq_signal, Inquiry.signal_eq_ok_iff]
  exact .inr ⟨s, x, n, Inquiry.found?_eq_some_iff.mpr ⟨hs, hx⟩, h.toPoints_eq, rfl⟩

open Application (ruleOf? rootOf YieldsAlone yieldsAlone_iff alone_of_rule) in
/-- An integer of at most 53 binary digits is read, written, read again as a decimal and rounded
without becoming another one.  So a conditional rule that adds it adds just that exactly if its
conditions are met, a weight rule that gives it to a key adds just that to the leads with that key,
a penalty of that magnitude takes just that off if it fires, and a tier whose entry gives it counts
just that if it is matched. -/
theorem integers_count_exactly :
    (∀ (w : Value) (n : ℤ), w.IsInteger n →
      ∃ x d, Check.number w = .valid x ∧ x.value = n ∧ Decimal.ofText x.text = .ok d ∧
        d.value = n ∧ d.toInteger = .ok n ∧ x.toPoints = .ok n) ∧
    (∀ cells lead v r conditions w (n : ℤ), ruleOf? v = some r → r.Adds conditions w →
      w.IsInteger n →
      ((∃ reason, YieldsAlone cells lead v ⟨some r.id, .applied ⟨reason, n⟩⟩) ↔
        ∀ c ∈ conditions, c.holds cells (rootOf cells lead) = .ok true) ∧
      ∀ a, YieldsAlone cells lead v ⟨some r.id, .applied a⟩ → a.delta = n) ∧
    (∀ cells lead v r field key w (n : ℤ) u, ruleOf? v = some r → r.Weighs field key w →
      w.IsInteger n → (rootOf cells lead).resolve cells field = .ok u →
      weightKey u = .ok (some key) →
      ∃ reason, YieldsAlone cells lead v ⟨some r.id, .applied ⟨reason, n⟩⟩) ∧
    (∀ es c p f w (n : ℤ), Scorecard.ofValue? (.map es) = some c → c.penalties = some p →
      f ∈ p.fines → Check.Configures es f.kind w → w.IsInteger n →
      (∀ fired, Signal.penalty fired f.magnitude f.tag f.line =
        .ok (if fired then ⟨-|n|, [f.tag], [f.line]⟩ else {})) ∧
      ∀ tables lead b, BaseScore.ofLead tables lead c = .ok b →
        ∃ s, BaseScore.IsLedger lead c b s ∧
          (s f.kind).points = if b.trace.any f.kind.heads then -|n| else 0) ∧
    ∀ es c e l ts lead key x, Scorecard.ofValue? (.map es) = some c → c.enrichment = some e →
      l ∈ e.lookups → Check.Configures es l.kind (.map ts) → l.found? lead = some (key, x) →
      ∃ row ∈ ts, ∃ tier, Check.text row.1 = .valid tier ∧ PointTable.tierKey tier = key ∧
        ∀ n : ℤ, row.2.IsInteger n →
          (∀ label, Signal.tier lead l.paths l.table label = .ok ⟨n, [Tag.enriched, key],
            [label ++ " '" ++ key ++ "' (" ++ signedText n ++ ")"]⟩) ∧
          ∀ tables b, BaseScore.ofLead tables lead c = .ok b →
            ∃ s, BaseScore.IsLedger lead c b s ∧ (s l.kind).points = n := by
  refine ⟨?_, ?_, ?_, ?_, ?_⟩
  · intro w n hw
    obtain ⟨x, hx, hinteger⟩ := Check.exists_number_isInteger hw
    obtain ⟨d, hread, hvalue, hrounded⟩ := hinteger.exists_ofText
    exact ⟨x, d, hx, hinteger.value_eq, hread, hvalue, hrounded, hinteger.toPoints_eq⟩
  · intro cells lead v r conditions w n hrule hadds hw
    obtain ⟨x, hx, hinteger⟩ := Check.exists_number_isInteger hw
    obtain ⟨given, hconditional⟩ := hadds.exists_isConditional hx
    have happlied : ∀ a, YieldsAlone cells lead v ⟨some r.id, .applied a⟩ ↔
        r.verdict cells (rootOf cells lead) = .applied a := by
      intro a
      rw [yieldsAlone_iff, alone_of_rule hrule, Rule.outcome, Except.ok.injEq, Outcome.mk.injEq,
        and_iff_right rfl]
    simp only [happlied, hconditional.verdict_eq_applied_iff, hinteger.toPoints_eq, true_and]
    constructor
    · constructor
      · rintro ⟨reason, hmet, -⟩
        exact hmet
      · intro hmet
        exact ⟨_, hmet, rfl⟩
    · rintro a ⟨-, hdelta, -⟩
      exact (Except.ok.inj hdelta).symm
  · intro cells lead v r field key w n u hrule hweighs hw hresolve hkey
    obtain ⟨x, hx, hinteger⟩ := Check.exists_number_isInteger hw
    obtain ⟨reason, hverdict⟩ :=
      hweighs.exists_verdict_eq hx hinteger.toPoints_eq hresolve hkey
    refine ⟨reason, ?_⟩
    rw [yieldsAlone_iff, alone_of_rule hrule, Rule.outcome, hverdict]
  · intro es c p f w n hc hp hf hw hn
    have hmagnitude := Check.isInteger_of_number hn
      (Check.number_of_fine (Checked.result?_eq_some_iff.mp hc) hp hf hw)
    refine ⟨fun fired => Signal.penalty_eq_of_isInteger hmagnitude fired f.tag f.line, ?_⟩
    intro tables lead b hb
    exact BaseScore.exists_fined hb hp hf (Binary64.toPoints_abs hmagnitude.toPoints_eq)
  · intro es c e l ts lead key x hc he hl hts hfound
    have htable := Check.tierTable_of_lookup (Checked.result?_eq_some_iff.mp hc) he hl hts
    obtain ⟨-, -, -, hget⟩ := Lookup.found?_eq_some_iff.mp hfound
    obtain ⟨row, hrow, tier, htext, htier, hx⟩ := Check.exists_entry_of_get? htable hget
    refine ⟨row, hrow, tier, htext, htier, fun n hn => ?_⟩
    have hinteger := Check.isInteger_of_number hn hx
    exact ⟨Signal.tier_eq_of_isInteger hfound hinteger, fun tables b hb =>
      BaseScore.exists_found hb he hl hfound hinteger.toPoints_eq⟩

/-! The largest integers of either sign in all four places. -/

namespace LargestIntegers

/-- A rule that adds `2 ^ 53` for leads with an address, under the second key. -/
def adding : Value :=
  .map [(.text "id", .text "add"), (.text "type", .text "IF_THEN"),
    (.text "definition", .map [(.text "if", .list [Application.existsAt "email"]),
      (.text "then", .map [(.text "add", .int (2 ^ 53))])])]

/-- A rule that takes `2 ^ 53` off leads with a trial. -/
def weighing : Value :=
  .map [(.text "id", .text "weigh"), (.text "type", .text "WEIGHT"),
    (.text "definition", .map [(.text "field", .text "fields.plan"),
      (.text "weights", .map [(.text "gold", .int 1), (.text "trial", .int (-2 ^ 53))])])]

/-- A scorecard with a penalty and a tier. -/
def data : List (Value × Value) :=
  [(.text "negative", .map [(.text "spam", .int (-2 ^ 53))]),
    (.text "enrichment", .map [(.text "industry", .map [(.text " SaaS", .int (2 ^ 53 - 1))])])]

def scorecard : Scorecard where
  penalties := some ⟨.zero, .zero, .zero, .finite true (2 ^ 52) 1⟩
  enrichment := some ⟨[], [("saas", .finite false (2 ^ 53 - 1) 0)]⟩

def lead : Value :=
  .map [(.text "email", .text "test@web.de"),
    (.text "fields", .map [(.text "plan", .text "trial"), (.text "industry", .text "SAAS")])]

def base : BaseScore where
  score := 0
  components := { enrichment := 2 ^ 53 - 1, negative := -2 ^ 53 }
  tags := [Tag.enriched, "saas", Tag.freeEmail, Tag.spam]
  trace := ["Industry 'saas' (+9007199254740991)", "Free email penalty", "Spam penalty applied"]

end LargestIntegers

open Application LargestIntegers in
theorem integers_count_exactly_largest :
    (∃ reason, YieldsAlone [] lead adding ⟨some "add", .applied ⟨reason, 2 ^ 53⟩⟩) ∧
    (∃ reason, YieldsAlone [] lead weighing ⟨some "weigh", .applied ⟨reason, -2 ^ 53⟩⟩) ∧
    ∃ l, Lead.ofValue? [] lead = some l ∧ BaseScore.ofLead {} l scorecard = .ok base ∧
      (∃ s, BaseScore.IsLedger l scorecard base s ∧ (s .spam).points = -2 ^ 53) ∧
      ∃ s, BaseScore.IsLedger l scorecard base s ∧ (s .industry).points = 2 ^ 53 - 1 := by
  obtain ⟨-, hadds, hweighs, hfines, htiers⟩ := integers_count_exactly
  have hinteger : ∀ m : ℤ, |m| ≤ 2 ^ 53 → (Value.int m).IsInteger m := fun m hm => ⟨.int m, hm⟩
  have hread : Scorecard.ofValue? (.map data) = some scorecard := by decide +kernel
  have hscore : BaseScore.ofLead {} ((Lead.ofValue? [] lead).getD {}) scorecard = .ok base := by
    decide +kernel
  refine ⟨?_, ?_, _, rfl, hscore, ?_, ?_⟩
  · refine (hadds [] lead adding _ [⟨"email", .exists, .null⟩] (.int (2 ^ 53)) _ rfl ?_
      (hinteger _ (by decide))).1.mpr ?_
    · exact ⟨rfl, rfl, _, _, rfl, rfl, rfl, .add rfl rfl, none, rfl⟩
    · decide +kernel
  · refine hweighs [] lead weighing _ "fields.plan" "trial" (.int (-2 ^ 53)) _ (.text "trial") rfl
      ?_ (hinteger _ (by decide)) rfl rfl
    refine ⟨rfl, rfl, _, _, _, rfl, rfl, rfl, rfl, rfl, ?_, none, rfl⟩
    intro e he hne
    rcases List.mem_cons.mp he with rfl | he
    · exact ⟨_, rfl⟩
    · exact absurd (congrArg Prod.fst (List.mem_singleton.mp he)) hne
  · obtain ⟨-, hfined⟩ := hfines data scorecard _
      ⟨.spam, .finite true (2 ^ 52) 1, Tag.spam⟩ (.int (-2 ^ 53)) (-2 ^ 53) hread rfl
      (by simp [Penalties.fines]) ⟨_, _, rfl, rfl⟩ (hinteger _ (by decide))
    exact hfined {} _ _ hscore
  · obtain ⟨row, hrow, tier, htext, -, hcounts⟩ := htiers data scorecard _
      ⟨.industry, Vocabulary.industryPaths, [("saas", .finite false (2 ^ 53 - 1) 0)]⟩ _
      ((Lead.ofValue? [] lead).getD {}) "saas" _ hread rfl (by simp [Enrichment.lookups])
      ⟨_, _, rfl, rfl⟩ rfl
    obtain rfl := List.mem_singleton.mp hrow
    exact (hcounts _ (hinteger _ (by decide))).2 {} _ hscore

end Qualify
