import Qualify.Proofs.Check.Problems
import Qualify.Proofs.Scorecard.Revalidation

/-!
# What is remarked upon in a scorecard

A mapping is taken for a scorecard or degraded to none, and it is validated with remarks.  Both come
from one reading (`Check.scorecard`), which tells of a problem whenever it yields nothing.  So the
two agree on every mapping (`Scorecard.remarks_iff_isComplete`): there are no remarks exactly on a
scorecard with all its sections, and the remarks on any other scorecard name the sections that it
lacks.
-/

namespace Qualify

namespace Check

open Checked

theorem weights_isExplained (v : Value) : (weights v).IsExplained := by
  refine (record_isExplained _ v).andThen fun es => ?_
  refine .seq (.seq (.fmap ?_) ?_) ?_
  · exact optional_isExplained nonnegative_isExplained es
  · exact optional_isExplained nonnegative_isExplained es
  · exact optional_isExplained nonnegative_isExplained es

theorem penalties_isExplained (v : Value) : (penalties v).IsExplained := by
  refine (record_isExplained _ v).andThen fun es => ?_
  refine .seq (.seq (.seq (.fmap ?_) ?_) ?_) ?_
  · exact optional_isExplained number_isExplained es
  · exact optional_isExplained number_isExplained es
  · exact optional_isExplained number_isExplained es
  · exact optional_isExplained number_isExplained es

theorem tierTable_isExplained (v : Value) : (tierTable v).IsExplained :=
  .fmap (.fmap (tableOf_isExplained number_isExplained v))

theorem enrichment_isExplained (v : Value) : (enrichment v).IsExplained := by
  refine (record_isExplained _ v).andThen fun es => ?_
  refine .seq (.fmap ?_) ?_
  · exact optional_isExplained tierTable_isExplained es
  · exact optional_isExplained tierTable_isExplained es

theorem ascending_isExplained (high medium low : Binary64) :
    (ascending high medium low).IsExplained := by
  unfold ascending
  split
  · exact isExplained_valid _
  · exact isExplained_refuse _

theorem thresholds_isExplained (v : Value) : (thresholds v).IsExplained := by
  unfold thresholds
  split
  · exact isExplained_valid _
  · refine (record_isExplained _ _).andThen fun es => ?_
    refine .andThen (.seq (.seq (.fmap ?_) ?_) ?_) fun parts => ascending_isExplained _ _ _
    · exact required_isExplained number_isExplained _
    · exact required_isExplained number_isExplained _
    · exact optional_isExplained number_isExplained _

theorem domains_isExplained (v : Value) : (domains v).IsExplained :=
  .fmap (listOf_isExplained text_isExplained v)

/-- What is no scorecard has a problem. -/
theorem scorecard_isExplained (v : Value) : (scorecard v).IsExplained := by
  unfold scorecard
  split
  · exact isExplained_valid _
  · refine (record_isExplained _ _).andThen fun es => ?_
    refine .seq (.seq (.seq (.seq (.seq (.seq (.seq (.fmap ?_) ?_) ?_) ?_) ?_) ?_) ?_) ?_
    · exact optional_isExplained (nullable_isExplained identifier_isExplained) es
    · exact optional_isExplained (nullable_isExplained identifier_isExplained) es
    · exact optional_isExplained integer_isExplained es
    · exact optional_isExplained (nullable_isExplained weights_isExplained) es
    · exact optional_isExplained (nullable_isExplained penalties_isExplained) es
    · exact optional_isExplained (nullable_isExplained enrichment_isExplained) es
    · exact optional_isExplained (nullable_isExplained thresholds_isExplained) es
    · exact optional_isExplained domains_isExplained es

end Check

namespace Scorecard

/-! ## Sections -/

/-- The sections that a scorecard may lack. -/
inductive Section where
  | weights
  | penalties
  | enrichment
  | bands
deriving DecidableEq

namespace Section

def all : List Section := [weights, penalties, enrichment, bands]

/-- The key under which a section is given. -/
def key : Section → String
  | weights => "weights"
  | penalties => "negative"
  | enrichment => "enrichment"
  | bands => "bands"

/-- Does a remark name the section, anywhere in its text? -/
def isNamedIn (s : Section) (remark : String) : Bool :=
  Text.occursIn s.key.toList remark.toList

/-- The remark that a section is missing. -/
def remark (s : Section) : String := s.key ++ ": section is missing, category will not be scored"

theorem mem_all (s : Section) : s ∈ all := by
  cases s <;> decide

theorem nodup_all : all.Nodup := by decide

/-- The remark that a section is missing names this section and no other. -/
theorem isNamedIn_remark (s t : Section) : s.isNamedIn t.remark = decide (s = t) := by
  cases s <;> cases t <;> decide +kernel

end Section

/-- Does a scorecard lack a section? -/
def lacks (c : Scorecard) : Section → Bool
  | .weights => c.weights.isNone
  | .penalties => c.penalties.isNone
  | .enrichment => c.enrichment.isNone
  | .bands => c.bands.isNone

variable {c : Scorecard} {es : List (Value × Value)} {s : Section}

theorem missingSections_eq : c.missingSections = (Section.all.filter c.lacks).map Section.key := by
  have hpairs : c.missingSections =
      Section.all.filterMap fun s => if c.lacks s then some s.key else none := rfl
  rw [hpairs]
  generalize Section.all = sections
  induction sections with
  | nil => rfl
  | cons s sections ih =>
      rw [List.filterMap_cons, List.filter_cons]
      cases c.lacks s with
      | true => exact congrArg (s.key :: ·) ih
      | false => exact ih

theorem isComplete_iff : c.isComplete = true ↔ ∀ s, c.lacks s = false := by
  have hall : c.isComplete = Section.all.all fun s => !c.lacks s := by
    simp [isComplete, Section.all, lacks, Bool.and_assoc]
  rw [hall, List.all_eq_true]
  simp only [Section.mem_all, Bool.not_eq_true', true_implies]

/-! ## Remarks -/

theorem ofValue?_map (es : List (Value × Value)) :
    ofValue? (.map es) = (Check.scorecard (.map es)).result? := rfl

theorem remarks_of_ofValue? (h : ofValue? (.map es) = some c) :
    remarks (.map es) = (Section.all.filter c.lacks).map Section.remark := by
  rw [remarks_of_valid (Checked.result?_eq_some_iff.mp h), missingSections_eq, List.map_map]
  rfl

theorem remarks_ne_nil_of_ofValue? (h : ofValue? (.map es) = none) : remarks (.map es) ≠ [] := by
  rw [ofValue?_map] at h
  cases hread : Check.scorecard (.map es) with
  | valid c =>
      rw [hread] at h
      cases h
  | invalid ps =>
      have hps : ps ≠ [] :=
        Checked.isExplained_invalid_iff.mp (hread ▸ Check.scorecard_isExplained (.map es))
      unfold remarks
      dsimp only
      rw [hread]
      exact fun hnil => hps (List.map_eq_nil_iff.mp hnil)

/-- A mapping is a scorecard with all its sections exactly if there is no remark on it.  The remarks
on a mapping that is a scorecard each name one section, which it lacks, and they name every section
that it lacks once; on a mapping that is none there is a remark. -/
theorem remarks_iff_isComplete (es : List (Value × Value)) :
    ((∃ c, ofValue? (.map es) = some c ∧ c.isComplete = true) ↔ remarks (.map es) = []) ∧
    (∀ c, ofValue? (.map es) = some c →
      (∀ r ∈ remarks (.map es), ∃ s, c.lacks s = true ∧ ∀ t : Section, t.isNamedIn r ↔ t = s) ∧
      ∀ s, c.lacks s = true → (remarks (.map es)).countP s.isNamedIn = 1) ∧
    (ofValue? (.map es) = none → remarks (.map es) ≠ []) := by
  refine ⟨?_, fun c hc => ⟨?_, fun s hs => ?_⟩, remarks_ne_nil_of_ofValue?⟩
  · cases hread : ofValue? (.map es) with
    | none =>
        refine iff_of_false ?_ (remarks_ne_nil_of_ofValue? hread)
        rintro ⟨c, hc, -⟩
        cases hc
    | some c =>
        rw [remarks_of_ofValue? hread, List.map_eq_nil_iff, List.filter_eq_nil_iff]
        simp [isComplete_iff, Section.mem_all]
  · intro r hr
    rw [remarks_of_ofValue? hc, List.mem_map] at hr
    obtain ⟨s, hs, rfl⟩ := hr
    refine ⟨s, (List.mem_filter.mp hs).2, fun t => ?_⟩
    rw [Section.isNamedIn_remark, decide_eq_true_iff]
  · have hnamed : s.isNamedIn ∘ Section.remark = (· == s) := by
      funext t
      rw [Function.comp_apply, Section.isNamedIn_remark, Bool.beq_eq_decide_eq, decide_eq_decide]
      exact eq_comm
    rw [remarks_of_ofValue? hc, List.countP_map, hnamed, ← List.count_eq_countP,
      List.count_filter hs]
    exact List.count_eq_one_of_mem Section.nodup_all s.mem_all

/-- Data without penalties, and data that are no scorecard. -/
theorem remarks_iff_isComplete_noPenalties :
    (∃ c, ofValue? (.map respelledData) = some c ∧ c.lacks .penalties = true ∧
      (remarks (.map respelledData)).countP Section.penalties.isNamedIn = 1) ∧
    ofValue? (.map [(.text "version", .null)]) = none ∧
      remarks (.map [(.text "version", .null)]) ≠ [] := by
  have hread : Check.scorecard (.map respelledData) = .valid respelled := by decide +kernel
  have hrefused : Check.scorecard (.map [(.text "version", .null)]) =
      .invalid [⟨["version"], .noInteger⟩] := by
    decide +kernel
  have hsome : ofValue? (.map respelledData) = some respelled := by rw [ofValue?_map, hread]; rfl
  have hnone : ofValue? (.map [(.text "version", .null)]) = none := by
    rw [ofValue?_map, hrefused]
    rfl
  obtain ⟨-, hsections, -⟩ := remarks_iff_isComplete respelledData
  obtain ⟨-, -, hremarks⟩ := remarks_iff_isComplete [(.text "version", .null)]
  exact ⟨⟨respelled, hsome, rfl, (hsections respelled hsome).2 .penalties rfl⟩, hnone,
    hremarks hnone⟩

end Scorecard

end Qualify
