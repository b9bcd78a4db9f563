import Qualify.Proofs.Application.Independence
import Qualify.Proofs.Points.Share

/-!
# Rules with several conditions

The conditions of a rule are tried in order up to the first that is not met, and that one alone
decides what becomes of the rule (`Condition.allHold_of_first`).  Which one it is depends on their
order; whether there is one does not.  So a rule with conditions is applied exactly when each of
them is met alone and its adjustment is worth points (`Application.ifThen_applied_iff`), and the
order of the conditions shows in how a rule is passed over, never in the points.
-/

namespace Qualify

namespace Binary64

variable {x : Binary64}

/-- A number is worth points exactly when it is finite and rounds to at most 28 digits. -/
theorem hasPoints_iff :
    x.HasPoints ↔ x.isFinite ∧ |Decimal.nearestInt x.shown.value| < 10 ^ 28 := by
  cases x with
  | infinite s => exact iff_of_false (fun ⟨_, h⟩ => nomatch h) fun h => nomatch h.1
  | nan => exact iff_of_false (fun ⟨_, h⟩ => nomatch h) fun h => nomatch h.1
  | finite s m e =>
      obtain ⟨c, k, hshown, -, -, -⟩ := exists_shown_finite s m e
      have hvalue : |(Decimal.finite s c k).value| = (c : ℚ) * 10 ^ k :=
        abs_signed s (by positivity)
      have hlimit : (nearest ((c : ℚ) * 10 ^ k) : ℤ) < 10 ^ 28 ↔
          nearest ((c : ℚ) * 10 ^ k) < tenTo Decimal.precision := by
        exact_mod_cast Iff.rfl
      simp only [HasPoints, toPoints_eq_ok_iff, hshown, Decimal.toInteger_finite_eq_ok_iff,
        Decimal.abs_nearestInt, hvalue, hlimit, exists_and_left, exists_eq, and_true]
      exact ⟨fun h => ⟨rfl, h⟩, fun h => h.2⟩

end Binary64

namespace Outcome

variable {o : Outcome} {a : Adjustment}

theorem delta_of_applied (h : o.verdict = .applied a) : o.delta = a.delta := by
  simp [delta, adjustment?, h]

/-- What is not applied adds nothing. -/
theorem adjustment?_eq_none (h : ∀ a, o.verdict ≠ .applied a) : o.adjustment? = none := by
  unfold adjustment?
  split
  · case h_1 a hverdict => exact absurd hverdict (h a)
  · rfl

end Outcome

namespace Condition

variable {cells : Cells} {root : Value} {c : Condition} {before after cs : List Condition}

/-- Conditions that are met leave it to those behind them. -/
theorem allHold_append (h : ∀ d ∈ before, d.holds cells root = .ok true) :
    allHold cells root (before ++ after) = allHold cells root after := by
  induction before with
  | nil => rfl
  | cons d before ih =>
      rw [List.forall_mem_cons] at h
      rw [List.cons_append, allHold, h.1, Except.ok_bind, if_pos rfl, ih h.2]

theorem allHold_of_forall (h : ∀ d ∈ cs, d.holds cells root = .ok true) :
    allHold cells root cs = .ok true := by
  rw [← List.append_nil cs, allHold_append h, allHold]

/-- The first condition that is not met decides. -/
theorem allHold_of_first (h : ∀ d ∈ before, d.holds cells root = .ok true)
    (hc : c.holds cells root ≠ .ok true) :
    allHold cells root (before ++ c :: after) = c.holds cells root := by
  rw [allHold_append h, allHold]
  cases hholds : c.holds cells root with
  | error f => rfl
  | ok b =>
      cases b with
      | false => rfl
      | true => exact absurd hholds hc

/-- Conditions are met together exactly when each of them is met alone. -/
theorem allHold_eq_true_iff :
    allHold cells root cs = .ok true ↔ ∀ d ∈ cs, d.holds cells root = .ok true := by
  refine ⟨fun h => ?_, allHold_of_forall⟩
  induction cs with
  | nil => exact List.forall_mem_nil _
  | cons c cs ih =>
      obtain ⟨b, hc, hrest⟩ := Except.bind_eq_ok_iff.mp h
      cases b with
      | false => cases hrest
      | true => exact List.forall_mem_cons.mpr ⟨hc, ih hrest⟩

end Condition

/-- The rule is in use and has these conditions for this adjustment. -/
structure Rule.IsConditional (r : Rule) (conditions : List Condition) (adjust : Binary64)
    (reason : Option String) : Prop where
  enabled : r.enabled
  definition : r.readDefinition = .ok (.ifThen conditions adjust reason)

namespace Rule.IsConditional

variable {r : Rule} {conditions before after : List Condition} {adjust : Binary64}
variable {reason : Option String} {cells : Cells} {root : Value} {c : Condition}

/-- What becomes of a rule with conditions once these have been tried. -/
theorem verdict_eq (h : r.IsConditional conditions adjust reason) :
    r.verdict cells root =
      match Condition.allHold cells root conditions, adjust.toPoints with
      | .error f, _ => .skipped (.evaluationError f)
      | .ok false, _ => .notMatched
      | .ok true, .error f => .skipped (.evaluationError f)
      | .ok true, .ok p => .applied ⟨(givenReason reason).getD ("Rule " ++ r.id), p⟩ := by
  rw [verdict, h.enabled, h.definition]
  dsimp only [Bool.not_true, Bool.false_eq_true, if_false, Definition.adjustment?]
  cases Condition.allHold cells root conditions with
  | error f => rfl
  | ok met =>
      cases met with
      | false => rfl
      | true =>
          cases adjust.toPoints with
          | error f => rfl
          | ok p => rfl

theorem verdict_eq_applied_iff (h : r.IsConditional conditions adjust reason) {a : Adjustment} :
    r.verdict cells root = .applied a ↔
      (∀ d ∈ conditions, d.holds cells root = .ok true) ∧ adjust.toPoints = .ok a.delta ∧
        a.reason = (givenReason reason).getD ("Rule " ++ r.id) := by
  rw [h.verdict_eq, ← Condition.allHold_eq_true_iff]
  split
  · case h_1 f _ hall => simp [hall]
  · case h_2 _ hall => simp [hall]
  · case h_3 f hall hpoints => simp [hpoints]
  · case h_4 p hall hpoints =>
      obtain ⟨text, delta⟩ := a
      simp [hall, hpoints, and_comm, eq_comm]

/-- The rule is applied exactly when each condition is met alone and the adjustment has points. -/
theorem exists_applied_iff (h : r.IsConditional conditions adjust reason) :
    (∃ a, r.verdict cells root = .applied a) ↔
      (∀ d ∈ conditions, d.holds cells root = .ok true) ∧ adjust.HasPoints := by
  simp only [h.verdict_eq_applied_iff]
  constructor
  · rintro ⟨a, hmet, hpoints, -⟩
    exact ⟨hmet, a.delta, hpoints⟩
  · rintro ⟨hmet, p, hpoints⟩
    exact ⟨⟨_, p⟩, hmet, hpoints, rfl⟩

theorem delta_of_applied (h : r.IsConditional conditions adjust reason) {a : Adjustment}
    (ha : r.verdict cells root = .applied a) :
    (r.outcome cells root).delta = Decimal.nearestInt adjust.shown.value :=
  (Outcome.delta_of_applied ha).trans
    (Binary64.toPoints_eq_nearestInt (h.verdict_eq_applied_iff.mp ha).2.1)

/-- The first condition that is not met tells why the rule is not applied. -/
theorem verdict_of_first (h : r.IsConditional (before ++ c :: after) adjust reason)
    (hbefore : ∀ d ∈ before, d.holds cells root = .ok true) :
    (c.holds cells root = .ok false → r.verdict cells root = .notMatched) ∧
      ∀ f, c.holds cells root = .error f →
        r.verdict cells root = .skipped (.evaluationError f) := by
  constructor
  · intro hc
    rw [h.verdict_eq, Condition.allHold_of_first hbefore (hc ▸ nofun), hc]
  · intro f hc
    rw [h.verdict_eq, Condition.allHold_of_first hbefore (hc ▸ nofun), hc]

/-- A rule whose conditions are met is skipped if its adjustment has no points. -/
theorem verdict_of_not_hasPoints (h : r.IsConditional conditions adjust reason)
    (hmet : ∀ d ∈ conditions, d.holds cells root = .ok true) (hpoints : ¬ adjust.HasPoints) :
    ∃ f, r.verdict cells root = .skipped (.evaluationError f) := by
  rw [h.verdict_eq, Condition.allHold_eq_true_iff.mpr hmet]
  cases hnone : adjust.toPoints with
  | error f => exact ⟨f, rfl⟩
  | ok p => exact absurd ⟨p, hnone⟩ hpoints

/-! ## The same adjustment under other conditions -/

variable {s : Rule} {conditions' : List Condition} {reason' : Option String}

theorem exists_applied_of_subset (h : r.IsConditional conditions adjust reason)
    (h' : s.IsConditional conditions' adjust reason') (hmore : ∀ d ∈ conditions, d ∈ conditions')
    (happlied : ∃ a, s.verdict cells root = .applied a) :
    ∃ a, r.verdict cells root = .applied a := by
  obtain ⟨hmet, hpoints⟩ := h'.exists_applied_iff.mp happlied
  exact h.exists_applied_iff.mpr ⟨fun d hd => hmet d (hmore d hd), hpoints⟩

theorem exists_applied_congr (h : r.IsConditional conditions adjust reason)
    (h' : s.IsConditional conditions' adjust reason')
    (hsame : ∀ d, d ∈ conditions' ↔ d ∈ conditions) :
    (∃ a, s.verdict cells root = .applied a) ↔ ∃ a, r.verdict cells root = .applied a :=
  ⟨h.exists_applied_of_subset h' fun d => (hsame d).mpr,
    h'.exists_applied_of_subset h fun d => (hsame d).mp⟩

/-- The order and the repetition of conditions make no difference to the points. -/
theorem delta_congr (h : r.IsConditional conditions adjust reason)
    (h' : s.IsConditional conditions' adjust reason')
    (hsame : ∀ d, d ∈ conditions' ↔ d ∈ conditions) :
    (s.outcome cells root).delta = (r.outcome cells root).delta := by
  have hiff : (∃ a, s.verdict cells root = .applied a) ↔ ∃ a, r.verdict cells root = .applied a :=
    h.exists_applied_congr h' hsame
  by_cases happlied : ∃ a, r.verdict cells root = .applied a
  · obtain ⟨a, ha⟩ := happlied
    obtain ⟨a', ha'⟩ := hiff.mpr ⟨a, ha⟩
    rw [h.delta_of_applied ha, h'.delta_of_applied ha']
  · have hidle := not_exists.mp happlied
    have hidle' := not_exists.mp (hiff.not.mpr happlied)
    exact (Outcome.delta_eq_zero (Outcome.adjustment?_eq_none hidle')).trans
      (Outcome.delta_eq_zero (Outcome.adjustment?_eq_none hidle)).symm

end Rule.IsConditional

namespace Application

variable {cells : Cells} {lead v : Value} {r : Rule} {conditions : List Condition}
variable {adjust : Binary64} {reason : Option String}

theorem yieldsAlone_outcome (hrule : ruleOf? v = some r) :
    YieldsAlone cells lead v (r.outcome cells (rootOf cells lead)) :=
  yieldsAlone_iff.mpr (alone_of_rule hrule)

/-- A rule that is in use and has conditions is applied to a lead exactly when each of its
conditions is met alone and its adjustment is finite and rounds to at most 28 digits, and it then
adds what the adjustment rounds to.  Otherwise it adds nothing: the first condition that is not met
says whether it does not match or is skipped for a failure, and an adjustment that cannot be rounded
has it skipped.  So another rule with the same adjustment is applied alike, to the same effect, if
its conditions differ in order and repetition only, and it is not applied where this one is not if
it has conditions besides. -/
theorem ifThen_applied_iff (hrule : ruleOf? v = some r)
    (h : r.IsConditional conditions adjust reason) :
    ∃ o, YieldsAlone cells lead v o ∧
      ((∃ a, o.verdict = .applied a) ↔
        (∀ c ∈ conditions, c.holds cells (rootOf cells lead) = .ok true) ∧
          adjust.isFinite ∧ |Decimal.nearestInt adjust.shown.value| < 10 ^ 28) ∧
      (∀ a, o.verdict = .applied a →
        o.delta = a.delta ∧ a.delta = Decimal.nearestInt adjust.shown.value ∧
          a.reason = (givenReason reason).getD ("Rule " ++ r.id)) ∧
      ((∀ a, o.verdict ≠ .applied a) → o.adjustment? = none ∧ o.delta = 0) ∧
      (∀ before c after, conditions = before ++ c :: after →
        (∀ d ∈ before, d.holds cells (rootOf cells lead) = .ok true) →
        (c.holds cells (rootOf cells lead) = .ok false → o.verdict = .notMatched) ∧
        ∀ f, c.holds cells (rootOf cells lead) = .error f →
          o.verdict = .skipped (.evaluationError f)) ∧
      ((∀ c ∈ conditions, c.holds cells (rootOf cells lead) = .ok true) →
        ¬ (adjust.isFinite ∧ |Decimal.nearestInt adjust.shown.value| < 10 ^ 28) →
        ∃ f, o.verdict = .skipped (.evaluationError f)) ∧
      ∀ w s conditions' reason' o', ruleOf? w = some s →
        s.IsConditional conditions' adjust reason' → YieldsAlone cells lead w o' →
        ((∀ c, c ∈ conditions' ↔ c ∈ conditions) →
          ((∃ a, o'.verdict = .applied a) ↔ ∃ a, o.verdict = .applied a) ∧ o'.delta = o.delta) ∧
        ((∀ c ∈ conditions, c ∈ conditions') →
          (∃ a, o'.verdict = .applied a) → ∃ a, o.verdict = .applied a) := by
  simp only [← Binary64.hasPoints_iff]
  refine ⟨_, yieldsAlone_outcome hrule, h.exists_applied_iff, ?_, ?_, ?_,
    h.verdict_of_not_hasPoints, ?_⟩
  · intro a ha
    obtain ⟨-, hpoints, htext⟩ := h.verdict_eq_applied_iff.mp ha
    exact ⟨Outcome.delta_of_applied ha, Binary64.toPoints_eq_nearestInt hpoints, htext⟩
  · intro hidle
    have hnone := Outcome.adjustment?_eq_none hidle
    exact ⟨hnone, Outcome.delta_eq_zero hnone⟩
  · rintro before c after rfl hbefore
    exact h.verdict_of_first hbefore
  · intro w s conditions' reason' o' hrule' h' ho'
    obtain rfl : s.outcome cells (rootOf cells lead) = o' := by
      rw [yieldsAlone_iff, alone_of_rule hrule'] at ho'
      exact Except.ok.inj ho'
    exact ⟨fun hsame => ⟨h.exists_applied_congr h' hsame, h.delta_congr h' hsame⟩,
      h.exists_applied_of_subset h'⟩

/-- A rule that gives ten points for conditions given as data. -/
def tenFor (conditions : List Value) : Value :=
  .map [(.text "id", .text "ten"), (.text "type", .text "IF_THEN"),
    (.text "definition", .map [(.text "if", .list conditions),
      (.text "then", .map [(.text "adjust", .int 10)])])]

/-- The condition that there is something at a path. -/
def existsAt (path : String) : Value :=
  .map [(.text "field", .text path), (.text "op", .text "exists")]

/-- The rule that such data are. -/
def ruleFor (conditions : List Value) : Rule :=
  ⟨"ten", none, .ifThen, true, 0, .map [(.text "if", .list conditions),
    (.text "then", .map [(.text "adjust", .int 10)])]⟩

/-- A condition that is not met and one that fails, in both orders: the rule does not match or is
skipped, and adds nothing. -/
theorem ifThen_applied_iff_twoOrders :
    ∃ o o', YieldsAlone [] (.map [(.text "tags", .list [.int 1])])
        (tenFor [existsAt "email", existsAt "tags.²"]) o ∧
      YieldsAlone [] (.map [(.text "tags", .list [.int 1])])
        (tenFor [existsAt "tags.²", existsAt "email"]) o' ∧
      o.verdict = .notMatched ∧ (∃ f, o'.verdict = .skipped (.evaluationError f)) ∧
      o'.delta = o.delta := by
  have hrule : ruleOf? (tenFor [existsAt "email", existsAt "tags.²"]) =
      some (ruleFor [existsAt "email", existsAt "tags.²"]) := rfl
  have hrule' : ruleOf? (tenFor [existsAt "tags.²", existsAt "email"]) =
      some (ruleFor [existsAt "tags.²", existsAt "email"]) := rfl
  have h : (ruleFor [existsAt "email", existsAt "tags.²"]).IsConditional
      [⟨"email", .exists, .null⟩, ⟨"tags.²", .exists, .null⟩] (.ofRatio false 10 1) none :=
    ⟨rfl, rfl⟩
  have h' : (ruleFor [existsAt "tags.²", existsAt "email"]).IsConditional
      [⟨"tags.²", .exists, .null⟩, ⟨"email", .exists, .null⟩] (.ofRatio false 10 1) none :=
    ⟨rfl, rfl⟩
  obtain ⟨o, ho, -, -, -, hfirst, -, hothers⟩ := ifThen_applied_iff hrule h
  obtain ⟨o', ho', -, -, -, hfirst', -, -⟩ := ifThen_applied_iff hrule' h'
  obtain ⟨hmatch, -⟩ := hfirst [] _ _ rfl (List.forall_mem_nil _)
  obtain ⟨-, hfails⟩ := hfirst' [] _ _ rfl (List.forall_mem_nil _)
  obtain ⟨hsame, -⟩ := hothers _ _ _ _ _ hrule' h' ho'
  have hposition : (Condition.mk "tags.²" .exists .null).holds []
      (rootOf [] (.map [(.text "tags", .list [.int 1])])) = .error (.noInteger 10 "'²'") := by
    decide +kernel
  exact ⟨o, o', ho, ho', hmatch (by decide +kernel), ⟨_, hfails _ hposition⟩,
    (hsame fun c => by simp [or_comm]).2⟩

end Application

end Qualify
