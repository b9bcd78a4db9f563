import Qualify.Condition
import Qualify.Proofs.Except
import Qualify.Proofs.Value.Parts

/-!
# Values that unfold alike

Data that refer back to themselves have no end when they are unfolded, so two of them are compared
by a relation that needs no end: it holds of two containers only if they are of one kind and have
related parts (`Cells.IsBisimulation`).  Values that some such relation holds of are alike
(`Value.UnfoldsAlike`), in one set of cells or in two.

A comparand has an end.  Every comparison goes down the comparand and follows the other value as far
only, so it cannot tell values that are alike from one another (`Comparison.holds_congr`).
-/

namespace Qualify

namespace Value

/-- Does the value hold no values and refer to no cell? -/
def isLeaf : Value → Bool
  | .list _ | .tuple _ | .set _ | .frozenSet _ | .map _ | .lead .. | .rule .. | .shared _ => false
  | _ => true

/-- Two values are alike outside and related in their parts. -/
inductive Corresponds (R : Value → Value → Prop) : Value → Value → Prop
  | leaf {v : Value} (h : v.isLeaf = true) : Corresponds R v v
  | list {xs ys : List Value} (h : List.Forall₂ R xs ys) : Corresponds R (.list xs) (.list ys)
  | tuple {xs ys : List Value} (h : List.Forall₂ R xs ys) : Corresponds R (.tuple xs) (.tuple ys)
  | set {xs ys : List Value} (h : List.Forall₂ R xs ys) : Corresponds R (.set xs) (.set ys)
  | frozenSet {xs ys : List Value} (h : List.Forall₂ R xs ys) :
      Corresponds R (.frozenSet xs) (.frozenSet ys)
  | map {es fs : List (Value × Value)} (h : List.Forall₂ (fun e f => e.1 = f.1 ∧ R e.2 f.2) es fs) :
      Corresponds R (.map es) (.map fs)
  | lead {email name company domain fields utm extra : Value}
      {email' name' company' domain' fields' utm' extra' : Value}
      (hemail : R email email') (hname : R name name') (hcompany : R company company')
      (hdomain : R domain domain') (hfields : R fields fields') (hutm : R utm utm')
      (hextra : R extra extra') :
      Corresponds R (.lead email name company domain fields utm extra)
        (.lead email' name' company' domain' fields' utm' extra')
  | rule {id : String} {teamId : Option String} {kind : RuleKind} {enabled : Bool} {order : Int}
      {definition definition' : Value} (h : R definition definition') :
      Corresponds R (.rule id teamId kind enabled order definition)
        (.rule id teamId kind enabled order definition')

end Value

/-- What the relation holds of corresponds, in what the cells hold, up to the relation again. -/
def Cells.IsBisimulation (cells cells' : Cells) (R : Value → Value → Prop) : Prop :=
  ∀ v v', R v v' → Value.Corresponds R (cells.deref v) (cells'.deref v')

namespace Value

variable {R : Value → Value → Prop} {cells cells' : Cells} {b v v' w : Value}
variable {xs xs' ys : List Value} {es es' fs : List (Value × Value)}

/-- Two values correspond, and so do their parts however far they are unfolded. -/
def UnfoldsAlike (cells cells' : Cells) (v v' : Value) : Prop :=
  ∃ R, cells.IsBisimulation cells' R ∧ Corresponds R v v'

/-- Two values that are the same, or two mappings, two lists or two tuples with anything in them. -/
inductive AlikeOutside : Value → Value → Prop
  | refl (v : Value) : AlikeOutside v v
  | list (xs ys : List Value) : AlikeOutside (.list xs) (.list ys)
  | tuple (xs ys : List Value) : AlikeOutside (.tuple xs) (.tuple ys)
  | map (es fs : List (Value × Value)) : AlikeOutside (.map es) (.map fs)

theorem deref_of_isLeaf (h : v.isLeaf = true) (cells : Cells) : cells.deref v = v := by
  apply deref_of_not_shared
  rintro n rfl
  cases h

namespace Corresponds

theorem number?_eq (h : Corresponds R v v') : v.number? = v'.number? := by
  cases h with
  | _ => rfl

theorem isBool_eq (h : Corresponds R v v') : v.isBool = v'.isBool := by
  cases h with
  | _ => rfl

theorem deref_left (h : Corresponds R v v') (cells : Cells) : cells.deref v = v := by
  cases h with
  | leaf h => exact deref_of_isLeaf h cells
  | _ => rfl

theorem deref_right (h : Corresponds R v v') (cells : Cells) : cells.deref v' = v' := by
  cases h with
  | leaf h => exact deref_of_isLeaf h cells
  | _ => rfl

/-- Beside what holds no values, all containers of one kind are the same. -/
theorem sameAtom_eq (h : Corresponds R v v') (b : Value) : sameAtom v b = sameAtom v' b := by
  cases h with
  | leaf => rfl
  | _ =>
      cases b with
      | _ => rfl

end Corresponds

/-- What holds no values is alike to itself, whatever the cells hold. -/
theorem UnfoldsAlike.leaf (h : v.isLeaf = true) : UnfoldsAlike cells cells' v v :=
  ⟨fun _ _ => False, fun _ _ h => h.elim, .leaf h⟩

/-! ## Parts beside parts -/

/-- Related values cannot be told apart by a comparison with the given one. -/
def Blurs (R : Value → Value → Prop) (cells cells' : Cells) (y : Value) : Prop :=
  ∀ x x', R x x' → x.same cells y = x'.same cells' y

theorem sameItems_congr (hys : ∀ y ∈ ys, Blurs R cells cells' y) (h : List.Forall₂ R xs xs') :
    sameItems cells xs ys = sameItems cells' xs' ys := by
  induction h generalizing ys with
  | nil => cases ys with | nil => rfl | cons y ys => rfl
  | cons hx _ ih =>
      cases ys with
      | nil => rfl
      | cons y ys =>
          rw [List.forall_mem_cons] at hys
          rw [sameItems, sameItems, hys.1 _ _ hx, ih hys.2]

theorem any_congr {p q : Value → Bool} (hpq : ∀ x x', R x x' → p x = q x')
    (h : List.Forall₂ R xs xs') : xs.any p = xs'.any q := by
  induction h with
  | nil => rfl
  | cons hx _ ih => rw [List.any_cons, List.any_cons, hpq _ _ hx, ih]

theorem sameMembers_congr (hys : ∀ y ∈ ys, Blurs R cells cells' y) (h : List.Forall₂ R xs xs') :
    sameMembers cells xs ys = sameMembers cells' xs' ys := by
  induction ys with
  | nil => rfl
  | cons y ys ih =>
      rw [List.forall_mem_cons] at hys
      have hany := any_congr (fun x x' hx => congrArg (fun r => r.toOption.getD false)
        (hys.1 x x' hx)) h
      rw [sameMembers, sameMembers, hany, ih hys.2]

theorem sameEntry_congr (key : Value) (hfs : ∀ f ∈ fs, Blurs R cells cells' f.2) (h : R v v') :
    sameEntry cells key v fs = sameEntry cells' key v' fs := by
  induction fs with
  | nil => rfl
  | cons f fs ih =>
      rw [List.forall_mem_cons] at hfs
      rw [sameEntry, sameEntry, hfs.1 _ _ h, ih hfs.2]

theorem foldlM_sameEntry_congr (hfs : ∀ f ∈ fs, Blurs R cells cells' f.2)
    (h : List.Forall₂ (fun e f => e.1 = f.1 ∧ R e.2 f.2) es es') (ok : Bool) :
    es.foldlM (fun ok e => if ok then sameEntry cells e.1 e.2 fs else .ok false) ok =
      es'.foldlM (fun ok e => if ok then sameEntry cells' e.1 e.2 fs else .ok false) ok := by
  induction h generalizing ok with
  | nil => rfl
  | @cons e e' es es' he _ ih =>
      rw [List.foldlM_cons, List.foldlM_cons, he.1, sameEntry_congr e'.1 hfs he.2]
      exact congrArg _ (funext ih)

/-! ## Values beside values

One lemma for each kind of container that a value is compared with; what is of another kind than
that is told apart from it without a look inside. -/

section Containers

variable (h : Corresponds R (cells.deref v) (cells'.deref v'))

include h

theorem same_list_congr (hys : ∀ y ∈ ys, Blurs R cells cells' y) :
    v.same cells (.list ys) = v'.same cells' (.list ys) := by
  rw [same, same]
  generalize cells.deref v = x at h ⊢
  generalize cells'.deref v' = x' at h ⊢
  cases h with
  | list hxs =>
      dsimp only
      rw [hxs.length_eq, sameItems_congr hys hxs]
  | @leaf x hx =>
      cases x with
      | list => cases hx
      | _ => rfl
  | _ => rfl

theorem same_tuple_congr (hys : ∀ y ∈ ys, Blurs R cells cells' y) :
    v.same cells (.tuple ys) = v'.same cells' (.tuple ys) := by
  rw [same, same]
  generalize cells.deref v = x at h ⊢
  generalize cells'.deref v' = x' at h ⊢
  cases h with
  | tuple hxs =>
      dsimp only
      rw [hxs.length_eq, sameItems_congr hys hxs]
  | @leaf x hx =>
      cases x with
      | tuple => cases hx
      | _ => rfl
  | _ => rfl

theorem same_set_congr (hys : ∀ y ∈ ys, Blurs R cells cells' y) :
    v.same cells (.set ys) = v'.same cells' (.set ys) := by
  rw [same, same]
  generalize cells.deref v = x at h ⊢
  generalize cells'.deref v' = x' at h ⊢
  cases h with
  | set hxs | frozenSet hxs =>
      dsimp only
      rw [hxs.length_eq, sameMembers_congr hys hxs]
  | @leaf x hx =>
      cases x with
      | set | frozenSet => cases hx
      | _ => rfl
  | _ => rfl

theorem same_map_congr (hfs : ∀ f ∈ fs, Blurs R cells cells' f.2) :
    v.same cells (.map fs) = v'.same cells' (.map fs) := by
  rw [same, same]
  generalize cells.deref v = x at h ⊢
  generalize cells'.deref v' = x' at h ⊢
  cases h with
  | map hes =>
      dsimp only
      rw [hes.length_eq, foldlM_sameEntry_congr hfs hes]
  | @leaf x hx =>
      cases x with
      | map => cases hx
      | _ => rfl
  | _ => rfl

theorem same_lead_congr {email name company domain fields utm extra : Value}
    (hparts : ∀ y ∈ [email, name, company, domain, fields, utm, extra], Blurs R cells cells' y) :
    v.same cells (.lead email name company domain fields utm extra) =
      v'.same cells' (.lead email name company domain fields utm extra) := by
  simp only [List.forall_mem_cons] at hparts
  obtain ⟨hemail, hname, hcompany, hdomain, hfields, hutm, hextra, -⟩ := hparts
  rw [same, same]
  generalize cells.deref v = x at h ⊢
  generalize cells'.deref v' = x' at h ⊢
  cases h with
  | lead h₁ h₂ h₃ h₄ h₅ h₆ h₇ =>
      dsimp only
      rw [hemail _ _ h₁, hname _ _ h₂, hcompany _ _ h₃, hdomain _ _ h₄, hfields _ _ h₅,
        hutm _ _ h₆, hextra _ _ h₇]
  | @leaf x hx =>
      cases x with
      | lead => cases hx
      | _ => rfl
  | _ => rfl

theorem same_rule_congr {id : String} {teamId : Option String} {kind : RuleKind} {enabled : Bool}
    {order : Int} {definition : Value} (hdefinition : Blurs R cells cells' definition) :
    v.same cells (.rule id teamId kind enabled order definition) =
      v'.same cells' (.rule id teamId kind enabled order definition) := by
  rw [same, same]
  generalize cells.deref v = x at h ⊢
  generalize cells'.deref v' = x' at h ⊢
  cases h with
  | rule hx =>
      dsimp only
      rw [hdefinition _ _ hx]
  | @leaf x hx =>
      cases x with
      | rule => cases hx
      | _ => rfl
  | _ => rfl

end Containers

/-- The comparison with a value follows what it is compared with only as deep as that value goes. -/
theorem same_congr (hR : cells.IsBisimulation cells' R)
    (h : Corresponds R (cells.deref v) (cells'.deref v')) (b : Value) :
    v.same cells b = v'.same cells' b := by
  induction b using inductionOnParts generalizing v v' with
  | step b ih =>
      have hparts : ∀ y ∈ b.parts, Blurs R cells cells' y :=
        fun y hy x x' hx => ih y hy (hR x x' hx)
      cases b with
      | list ys => exact same_list_congr h hparts
      | tuple ys => exact same_tuple_congr h hparts
      | set ys | frozenSet ys => exact same_set_congr h hparts
      | map fs =>
          exact same_map_congr h fun f hf => hparts f.2 (mem_parts_map.mpr ⟨f, hf, .inr rfl⟩)
      | lead => exact same_lead_congr h hparts
      | rule => exact same_rule_congr h (hparts _ (List.mem_singleton_self _))
      | _ =>
          rw [same, same, h.number?_eq, h.sameAtom_eq]
          all_goals exact nofun

end Value

namespace Comparison

open Value (Corresponds AlikeOutside UnfoldsAlike)

variable {R : Value → Value → Prop} {cells cells' : Cells} {v v' : Value}

theorem areEqual_congr (hR : cells.IsBisimulation cells' R)
    (h : Corresponds R (cells.deref v) (cells'.deref v')) (expected : Value) :
    areEqual cells v expected = areEqual cells' v' expected := by
  rw [areEqual, areEqual, h.isBool_eq, Value.same_congr hR h]

theorem anyHolds_congr {test test' : Value → Except Failure Bool} {xs xs' : List Value}
    (htest : ∀ x x', R x x' → test x = test' x') (h : List.Forall₂ R xs xs') :
    anyHolds test xs = anyHolds test' xs' := by
  induction h with
  | nil => rfl
  | cons hx _ ih => rw [anyHolds, anyHolds, htest _ _ hx, ih]

theorem isAmong_congr (hR : cells.IsBisimulation cells' R)
    (h : Corresponds R (cells.deref v) (cells'.deref v')) (expected : Value) :
    isAmong cells v expected = isAmong cells' v' expected := by
  have htest : areEqual cells v = areEqual cells' v' := funext (areEqual_congr hR h)
  rw [isAmong, isAmong, htest]

theorem containsValue_congr (hR : cells.IsBisimulation cells' R) (h : Corresponds R v v')
    (expected : Value) : containsValue cells v expected = containsValue cells' v' expected := by
  have hitems : ∀ xs xs', List.Forall₂ R xs xs' →
      anyHolds (fun x => areEqual cells x expected) xs =
        anyHolds (fun x => areEqual cells' x expected) xs' :=
    fun xs xs' hxs => anyHolds_congr (fun x x' hx => areEqual_congr hR (hR x x' hx) expected) hxs
  cases h with
  | list hxs | tuple hxs | set hxs | frozenSet hxs => exact hitems _ _ hxs
  | @leaf v hv =>
      cases v with
      | list | tuple | set | frozenSet => cases hv
      | _ => rfl
  | _ => rfl

/-! ## Comparisons and what they look at -/

/-- Does the comparison look into the containers that it is asked about? -/
def looksInside : Comparison → Bool
  | equals | notEquals | isIn | notIn | contains | notContains => true
  | _ => false

theorem isContainer_congr (h : AlikeOutside v v') : isContainer v = isContainer v' := by
  cases h with
  | _ => rfl

theorem isPresent_congr (h : AlikeOutside v v') : isPresent v = isPresent v' := by
  cases h with
  | _ => rfl

theorem onTexts_congr (r : List Char → List Char → Bool) (h : AlikeOutside v v')
    (expected : Value) : onTexts r v expected = onTexts r v' expected := by
  cases h with
  | _ => rfl

theorem isOrdered_congr (orders : List Ordering) (h : AlikeOutside v v') (expected : Value) :
    isOrdered orders v expected = isOrdered orders v' expected := by
  cases h with
  | _ => rfl

theorem matchesPattern_congr (h : AlikeOutside v v') (expected : Value) :
    matchesPattern v expected = matchesPattern v' expected := by
  cases h with
  | refl => rfl
  | _ =>
      cases expected with
      | _ => rfl

/-- A comparison that does not look inside cannot tell values apart that are alike outside. -/
theorem holds_congr_of_alikeOutside (h : AlikeOutside v v') (expected : Value) {c : Comparison}
    (hc : c.looksInside = false) : c.holds cells v expected = c.holds cells' v' expected := by
  cases c with
  | equals | notEquals | isIn | notIn | contains | notContains => cases hc
  | greaterThan | lessThan | greaterEqual | lessEqual => exact isOrdered_congr _ h expected
  | startsWith | endsWith => exact congrArg _ (onTexts_congr _ h expected)
  | regex => exact matchesPattern_congr h expected
  | «exists» => exact congrArg _ (isPresent_congr h)
  | notExists => exact congrArg (fun b => Except.ok !b) (isPresent_congr h)

/-- No comparison can tell values apart that unfold alike. -/
theorem holds_congr (houtside : AlikeOutside v v') (h : UnfoldsAlike cells cells' v v')
    (expected : Value) (c : Comparison) :
    c.holds cells v expected = c.holds cells' v' expected := by
  obtain ⟨R, hR, hv⟩ := h
  have hderef : Corresponds R (cells.deref v) (cells'.deref v') := by
    rw [hv.deref_left, hv.deref_right]
    exact hv
  cases c with
  | equals => exact areEqual_congr hR hderef expected
  | notEquals => exact congrArg (· >>= _) (areEqual_congr hR hderef expected)
  | isIn => exact isAmong_congr hR hderef expected
  | notIn => exact congrArg (· >>= _) (isAmong_congr hR hderef expected)
  | contains => exact containsValue_congr hR hv expected
  | notContains =>
      rw [holds, holds, isContainer_congr houtside, containsValue_congr hR hv]
  | _ => exact holds_congr_of_alikeOutside houtside expected rfl

end Comparison

end Qualify
