import Qualify.Proofs.Check

/-!
# What is refused is refused for a reason

Reading that yields no result reports at least one problem.  This holds of every way in which
readers are put together as soon as it holds of the parts, and so of the records that a rule and a
scorecard are (`Check.rule_isExplained`, `Check.scorecard_isExplained`).  The remarks on a payload are therefore none exactly when the payload is
a rule with a place and a definition (`Rule.remarks_eq_nil_iff`).
-/

namespace Qualify

namespace Checked

variable {α β : Type}

/-- Where there is no result, there is a problem. -/
def IsExplained (c : Checked α) : Prop := c ≠ invalid []

@[simp] theorem isExplained_valid (a : α) : (valid a).IsExplained := nofun

@[simp] theorem isExplained_invalid_iff {ps : List Problem} :
    (invalid ps : Checked α).IsExplained ↔ ps ≠ [] := by
  simp [IsExplained]

@[simp] theorem isExplained_refuse (c : Complaint) : (refuse c : Checked α).IsExplained := nofun

theorem IsExplained.fmap {f : α → β} {c : Checked α} (h : c.IsExplained) :
    (f <$> c).IsExplained := by
  cases c with
  | valid a => exact isExplained_valid (f a)
  | invalid ps => exact isExplained_invalid_iff.mpr (isExplained_invalid_iff.mp h)

theorem IsExplained.seq {f : Checked (α → β)} {c : Checked α} (hf : f.IsExplained)
    (hc : c.IsExplained) : (f <*> c).IsExplained := by
  cases f with
  | valid g =>
      have hmap : valid g <*> c = g <$> c := by
        cases c with
        | valid a => rfl
        | invalid ps => rfl
      exact hmap ▸ hc.fmap
  | invalid ps =>
      have hps : ps ≠ [] := isExplained_invalid_iff.mp hf
      cases c with
      | valid a => exact isExplained_invalid_iff.mpr hps
      | invalid qs => exact isExplained_invalid_iff.mpr (List.append_ne_nil_of_left_ne_nil hps qs)

theorem IsExplained.under {c : Checked α} (h : c.IsExplained) (key : String) :
    (c.under key).IsExplained := by
  cases c with
  | valid a => exact isExplained_valid a
  | invalid ps =>
      have hps : ps ≠ [] := isExplained_invalid_iff.mp h
      exact isExplained_invalid_iff.mpr fun h => hps (List.map_eq_nil_iff.mp h)

theorem IsExplained.andThen {c : Checked α} {f : α → Checked β} (hc : c.IsExplained)
    (hf : ∀ a, (f a).IsExplained) : (c.andThen f).IsExplained := by
  cases c with
  | valid a => exact hf a
  | invalid ps => exact isExplained_invalid_iff.mpr (isExplained_invalid_iff.mp hc)

theorem isExplained_ofExcept (x : Except Failure α) : (ofExcept x).IsExplained := by
  cases x with
  | ok a => exact isExplained_valid a
  | error f => exact isExplained_refuse (.failed f)

end Checked

namespace Check

open Checked

variable {α : Type} {keys : List String} {read : Value → Checked α}

theorem required_isExplained (h : ∀ v, (read v).IsExplained) (es : Entries) :
    (required keys read es).IsExplained := by
  unfold required
  split
  · case h_1 key v _ => exact (h v).under key
  · exact (isExplained_refuse _).under _

theorem optional_isExplained {default : α} (h : ∀ v, (read v).IsExplained) (es : Entries) :
    (optional keys default read es).IsExplained := by
  unfold optional
  split
  · case h_1 key v _ => exact (h v).under key
  · exact isExplained_valid default

theorem nullable_isExplained (h : ∀ v, (read v).IsExplained) (v : Value) :
    (nullable read v).IsExplained := by
  unfold nullable
  split
  · exact isExplained_valid none
  · exact (h v).fmap

theorem record_isExplained (type : String) (v : Value) : (record type v).IsExplained := by
  unfold record
  split
  · exact isExplained_valid _
  · exact isExplained_refuse _

theorem eachFrom_isExplained (h : ∀ v, (read v).IsExplained) (n : Nat) (xs : List Value) :
    (eachFrom read n xs).IsExplained := by
  induction xs generalizing n with
  | nil => exact isExplained_valid []
  | cons x xs ih => exact IsExplained.seq (.fmap ((h x).under _)) (ih (n + 1))

theorem listOf_isExplained (h : ∀ v, (read v).IsExplained) (v : Value) :
    (listOf read v).IsExplained := by
  unfold listOf items
  split
  · exact eachFrom_isExplained h 0 _
  · exact isExplained_refuse _

theorem text_isExplained (v : Value) : (text v).IsExplained := by
  unfold text
  split
  · exact isExplained_valid _
  · exact isExplained_refuse _
  · exact isExplained_refuse _

theorem tableEntries_isExplained (h : ∀ v, (read v).IsExplained) (es : Entries) :
    (tableEntries read es).IsExplained := by
  induction es with
  | nil => exact isExplained_valid []
  | cons e es ih =>
      have hkey := ((text_isExplained e.1).under "[key]").under (keyText e.1)
      exact IsExplained.seq (.fmap (.seq (.fmap hkey) ((h e.2).under _))) ih

theorem tableOf_isExplained (h : ∀ v, (read v).IsExplained) (v : Value) :
    (tableOf read v).IsExplained := by
  unfold tableOf
  split
  · exact tableEntries_isExplained h _
  · exact isExplained_refuse _

theorem number_isExplained (v : Value) : (number v).IsExplained := by
  unfold number IsExplained
  grind [refuse]

theorem nonnegative_isExplained (v : Value) : (nonnegative v).IsExplained := by
  refine (number_isExplained v).andThen fun x => ?_
  split
  · exact isExplained_valid _
  · exact isExplained_refuse _

theorem identifier_isExplained (v : Value) : (identifier v).IsExplained := by
  unfold identifier
  split
  · exact isExplained_refuse .noText
  · exact isExplained_ofExcept v.toText

theorem choice_isExplained (name : α → String) (all : List α) (v : Value) :
    (choice name all v).IsExplained := by
  unfold choice
  split
  · exact isExplained_valid _
  · exact isExplained_refuse _

theorem boolean_isExplained (v : Value) : (boolean v).IsExplained := by
  unfold boolean IsExplained
  dsimp only
  grind [refuse]

theorem integer_isExplained (v : Value) : (integer v).IsExplained := by
  unfold integer IsExplained
  dsimp only
  grind [refuse]

/-- What is no rule has a problem. -/
theorem rule_isExplained (v : Value) : (rule v).IsExplained := by
  cases v with
  | rule id teamId kind enabled order definition => exact isExplained_valid _
  | map es =>
      refine IsExplained.seq (.seq (.seq (.seq (.seq (.fmap ?_) ?_) ?_) ?_) ?_) ?_
      · exact required_isExplained identifier_isExplained es
      · exact optional_isExplained (nullable_isExplained identifier_isExplained) es
      · exact required_isExplained (choice_isExplained _ _) es
      · exact optional_isExplained boolean_isExplained es
      · exact optional_isExplained integer_isExplained es
      · exact optional_isExplained isExplained_valid es
  | _ => exact isExplained_refuse (.noRecord "ScoringRule")

end Check

namespace Rule

variable {r : Rule} {v : Value}

/-- A definition that cannot be read is remarked upon. -/
theorem remarksOn_eq_nil_iff :
    r.remarksOn = [] ↔ 0 ≤ r.order ∧ ∃ d, r.readDefinition = .ok d := by
  unfold remarksOn
  rw [List.append_eq_nil_iff]
  refine and_congr (by simp) ?_
  cases r.readDefinition with
  | ok d => simp
  | error f =>
      by_cases hcomplaints : f.complaints = []
      · simp [hcomplaints]
      · simp [hcomplaints]

/-- A rule with a definition has its place remarked upon, if anything. -/
theorem eq_orderRemark_of_mem {d : Definition} (hd : r.readDefinition = .ok d) {s : String}
    (hs : s ∈ r.remarksOn) : s = "order: must be a non-negative integer" := by
  simp only [remarksOn, hd, List.append_nil] at hs
  split at hs
  · exact List.mem_singleton.mp hs
  · cases hs

theorem remarks_of_valid (h : Check.rule v = .valid r) : remarks v = r.remarksOn := by
  unfold remarks
  split
  · rw [h]
  · rw [h]
  · case h_3 hmap hrule =>
      cases v with
      | map es => exact (hmap es rfl).elim
      | rule id teamId kind enabled order definition => exact (hrule _ _ _ _ _ _ rfl).elim
      | _ => cases h

theorem remarks_ne_nil_of_invalid {ps : List Problem} (h : Check.rule v = .invalid ps) :
    remarks v ≠ [] := by
  have hps : ps ≠ [] := Checked.isExplained_invalid_iff.mp (h ▸ Check.rule_isExplained v)
  unfold remarks
  split
  · rw [h]
    exact fun hnil => hps (List.map_eq_nil_iff.mp hnil)
  · rw [h]
    exact fun hnil => hps (List.map_eq_nil_iff.mp hnil)
  · exact List.cons_ne_nil _ _

/-- There is nothing to be said against a payload exactly when it is a rule whose place is not below
zero and whose definition can be read. -/
theorem remarks_eq_nil_iff :
    remarks v = [] ↔
      ∃ r, Check.rule v = .valid r ∧ 0 ≤ r.order ∧ ∃ d, r.readDefinition = .ok d := by
  cases h : Check.rule v with
  | valid r => simp [remarks_of_valid h, remarksOn_eq_nil_iff]
  | invalid ps => simp [remarks_ne_nil_of_invalid h]

end Rule

end Qualify
