import Mathlib.Data.List.Induction
import Qualify.Outcome
import Qualify.Proofs.Path
import Qualify.Proofs.Value.Alike

/-!
# Paths through data that refer back to themselves

A walk looks one segment up in each value that it comes to, and in nothing else (`Value.lookups`).
So two sets of cells, however they refer back to themselves, may differ in everything that is not
looked up: as long as the walks find related entries, or none, wherever the path leads them, they
end in related values (`Value.AgreesOn.rel_walk`).

What a rule makes of the value at the end is a second question.  A weight is looked up by a scalar,
so that containers are all one to it, and most comparisons do not look into a container either.  The
others do, and can tell a container from one that has a reference to itself in addition, even though
the path does not lead there (`Condition.holds_selfReference`).
-/

namespace Qualify

namespace Value

variable {R : Value → Value → Prop} {cells cells' : Cells} {v v' w w' root root' : Value}
variable {segments before after : List (List Char)} {s : List Char} {path : String}

/-- A walk goes on behind its first step, in null as well. -/
theorem walk_cons_eq_step : v.walk cells (s :: after) = v.step cells s >>= (·.walk cells after) := by
  rw [walk_cons]
  split
  · case isTrue hnull =>
      obtain rfl := isNull_iff.mp hnull
      exact (walk_null after).symm
  · rfl

theorem walk_concat : v.walk cells (before ++ [s]) = v.walk cells before >>= (·.step cells s) := by
  rw [walk_append]
  exact congrArg _ (funext fun w => walk_cons_eq_step.trans (bind_pure _))

/-! ## What a walk looks up -/

/-- The values that a walk looks into, each with the segment that it looks up there. -/
def lookups (cells : Cells) (v : Value) : List (List Char) → List (Value × List Char)
  | [] => []
  | s :: rest =>
    if v.isNull then []
    else (v, s) :: match v.step cells s with
      | .ok w => lookups cells w rest
      | .error _ => []

theorem length_lookups_le (cells : Cells) (v : Value) (segments : List (List Char)) :
    (lookups cells v segments).length ≤ segments.length := by
  induction segments generalizing v with
  | nil => exact Nat.le_refl 0
  | cons s rest ih =>
      rw [lookups]
      split
      · exact Nat.zero_le _
      · apply Nat.succ_le_succ
        cases v.step cells s with
        | error f => exact Nat.zero_le _
        | ok w => exact ih w

/-- The last thing looked up is what a walk ends with; it stays where it is if it looks up nothing. -/
theorem walk_eq_last (cells : Cells) (v : Value) (segments : List (List Char)) :
    v.walk cells segments =
      ((lookups cells v segments).getLast?.map fun l => l.1.step cells l.2).getD (.ok v) := by
  induction segments generalizing v with
  | nil => rfl
  | cons s rest ih =>
      rw [walk_cons, lookups]
      split
      · case isTrue hnull =>
          obtain rfl := isNull_iff.mp hnull
          rfl
      · cases hstep : v.step cells s with
        | error f => exact hstep.symm
        | ok w =>
            rw [Except.ok_bind, ih w, List.getLast?_cons]
            cases (lookups cells w rest).getLast? with
            | none => exact hstep.symm
            | some l => rfl

/-- A walk looks the next segment up wherever its segments so far lead to something. -/
theorem getElem?_lookups_iff {i : Nat} :
    (lookups cells v segments)[i]? = some (w, s) ↔
      segments[i]? = some s ∧ v.walk cells (segments.take i) = .ok w ∧ w.isNull = false := by
  induction segments generalizing v i with
  | nil => exact iff_of_false nofun fun h => nomatch h.1
  | cons t rest ih =>
      rw [lookups]
      split
      · case isTrue hnull =>
          refine iff_of_false nofun fun ⟨_, hwalk, hw⟩ => ?_
          obtain rfl := isNull_iff.mp hnull
          cases (walk_null _).symm.trans hwalk
          cases hw
      · case isFalse hnull =>
          cases i with
          | zero =>
              simp only [List.getElem?_cons_zero, Option.some.injEq, Prod.mk.injEq, List.take_zero,
                walk_nil, Except.ok.injEq]
              constructor
              · rintro ⟨rfl, rfl⟩
                exact ⟨rfl, rfl, eq_false_of_ne_true hnull⟩
              · rintro ⟨rfl, rfl, -⟩
                exact ⟨rfl, rfl⟩
          | succ i =>
              rw [List.getElem?_cons_succ, List.getElem?_cons_succ, List.take_succ_cons, walk_cons,
                if_neg hnull]
              cases v.step cells t with
              | error f => exact iff_of_false nofun fun h => nomatch h.2.1
              | ok x => exact ih

/-- A walk along some segments looks something up in all but null. -/
theorem isNull_of_lookups_eq_nil (hne : segments ≠ []) (h : lookups cells v segments = []) :
    v.isNull = true := by
  cases segments with
  | nil => exact absurd rfl hne
  | cons s rest =>
      rw [lookups] at h
      split at h
      · assumption
      · cases h

/-- What a path looks up, from where it starts; the empty path looks up nothing. -/
def lookupsAlong (cells : Cells) (root : Value) (path : String) : List (Value × List Char) :=
  if path = "" then [] else lookups cells (origin cells root) (Value.segments path)

theorem segments_ne_nil (path : String) : Value.segments path ≠ [] :=
  Text.splitOn_ne_nil '.' path.toList

/-- A path looks each of its segments up at most once, in order, in the value that the segments
before lead to, and ends with what it finds last. -/
structure LooksUpInOrder (cells : Cells) (root : Value) (path : String) : Prop where
  length_le : (lookupsAlong cells root path).length ≤ (Value.segments path).length
  getElem?_iff : path ≠ "" → ∀ i w s, (lookupsAlong cells root path)[i]? = some (w, s) ↔
    (Value.segments path)[i]? = some s ∧ w.isNull = false ∧
      (origin cells root).walk cells ((Value.segments path).take i) = .ok w
  resolve_eq : root.resolve cells path =
    ((lookupsAlong cells root path).getLast?.map fun l => l.1.step cells l.2).getD (.ok .null)

theorem looksUpInOrder (cells : Cells) (root : Value) (path : String) :
    LooksUpInOrder cells root path := by
  by_cases hempty : path = ""
  · subst hempty
    exact ⟨Nat.zero_le _, fun h => absurd rfl h, rfl⟩
  · have hlookups : lookupsAlong cells root path =
        lookups cells (origin cells root) (Value.segments path) := if_neg hempty
    refine ⟨?_, fun _ i w s => ?_, ?_⟩
    · rw [hlookups]
      exact length_lookups_le _ _ _
    · rw [hlookups, getElem?_lookups_iff]
      exact and_congr_right fun _ => and_comm
    · rw [hlookups, resolve_eq_walk hempty, walk_eq_last]
      cases hlast : (lookups cells (origin cells root) (Value.segments path)).getLast? with
      | some l => rfl
      | none =>
          have hnull := isNull_of_lookups_eq_nil (segments_ne_nil path)
            (List.getLast?_eq_none_iff.mp hlast)
          rw [isNull_iff.mp hnull]

/-! ## Walks that find the same -/

/-- Something holds of the two values that two walks come to and of the segment that follows. -/
def AlongWalks (P : Value → Value → List Char → Prop) (cells cells' : Cells) (v v' : Value)
    (segments : List (List Char)) : Prop :=
  ∀ before s after w w', segments = before ++ s :: after → v.walk cells before = .ok w →
    v'.walk cells' before = .ok w' → P w w' s

theorem AlongWalks.nil {P : Value → Value → List Char → Prop} :
    AlongWalks P cells cells' v v' [] := by
  intro before s after w w' hsegments
  exact absurd hsegments.symm (List.append_ne_nil_of_right_ne_nil before (List.cons_ne_nil s after))

theorem AlongWalks.cons {P : Value → Value → List Char → Prop} (hhere : P v v' s)
    (hrest : ∀ w w', v.step cells s = .ok w → v'.step cells' s = .ok w' →
      AlongWalks P cells cells' w w' segments) :
    AlongWalks P cells cells' v v' (s :: segments) := by
  intro before t after w w' hsegments hw hw'
  cases before with
  | nil =>
      cases hsegments
      cases hw
      cases hw'
      exact hhere
  | cons u before =>
      obtain ⟨rfl, hrestSegments⟩ := List.cons.inj hsegments
      rw [walk_cons_eq_step] at hw hw'
      obtain ⟨x, hx, hw⟩ := Except.bind_eq_ok_iff.mp hw
      obtain ⟨x', hx', hw'⟩ := Except.bind_eq_ok_iff.mp hw'
      exact hrest x x' hx hx' before t after w w' hrestSegments hw hw'

/-- Wherever the two walks come to, the next segment finds related values, or fails alike. -/
def AgreesOn (R : Value → Value → Prop) (cells cells' : Cells) : Value → Value →
    List (List Char) → Prop :=
  AlongWalks (fun w w' s => Except.Rel R (w.step cells s) (w'.step cells' s)) cells cells'

theorem AgreesOn.of_append (h : AgreesOn R cells cells' v v' (before ++ after)) :
    AgreesOn R cells cells' v v' before := by
  rintro first s last w w' rfl hw hw'
  exact h first s (last ++ after) w w' (List.append_assoc _ _ _) hw hw'

/-- Two walks that find related values on their way end in related values, or fail alike. -/
theorem AgreesOn.rel_walk (h : AgreesOn R cells cells' v v' segments) (hne : segments ≠ []) :
    Except.Rel R (v.walk cells segments) (v'.walk cells' segments) := by
  induction segments using List.reverseRecOn with
  | nil => exact absurd rfl hne
  | append_singleton before s ih =>
      rw [walk_concat, walk_concat]
      cases before with
      | nil => exact h [] s [] v v' rfl rfl rfl
      | cons t rest =>
          refine (ih h.of_append (List.cons_ne_nil t rest)).bind_of_eq fun w w' hw hw' _ => ?_
          exact h (t :: rest) s [] w w' rfl hw hw'

/-! ## More in the same containers -/

/-- What the segment finds in the value, as it stands there. -/
def item (v : Value) (s : List Char) : Except Failure Value :=
  match v with
  | .map es => .ok ((lookup (String.ofList s) es).getD .null)
  | .list xs | .tuple xs =>
    if isPosition s then do
      let n ← position s
      return xs.getD n .null
    else .ok .null
  | _ => .ok .null

theorem step_eq_item (cells : Cells) (v : Value) (s : List Char) :
    v.step cells s = v.item s >>= fun u => .ok (cells.deref u) := by
  cases v with
  | list xs | tuple xs =>
      rw [step, item]
      split
      · rw [bind_assoc]
        rfl
      · rfl
  | _ => rfl

theorem alikeOutside_deref (h : List.Forall₂ AlikeOutside cells cells') (u : Value) :
    AlikeOutside (cells.deref u) (cells'.deref u) := by
  cases u with
  | shared n =>
      show AlikeOutside (cells.getD n .null) (cells'.getD n .null)
      induction h generalizing n with
      | nil => exact .refl _
      | cons hv _ ih =>
          cases n with
          | zero => exact hv
          | succ n => exact ih n
  | _ => exact .refl _

/-- Wherever the two walks come to, the same stands under the next segment. -/
def KeepsItems (cells cells' : Cells) : Value → Value → List (List Char) → Prop :=
  AlongWalks (fun w w' s => w.item s = w'.item s) cells cells'

theorem AgreesOn.of_keepsItems (hcells : List.Forall₂ AlikeOutside cells cells')
    (h : KeepsItems cells cells' v v' segments) : AgreesOn AlikeOutside cells cells' v v' segments := by
  intro before s after w w' hsegments hw hw'
  rw [step_eq_item, step_eq_item, h before s after w w' hsegments hw hw']
  exact Except.Rel.bind_same _ fun u => .ok (alikeOutside_deref hcells u)

theorem weightKey_congr (h : AlikeOutside v v') : weightKey v = weightKey v' := by
  cases h with
  | _ => rfl

/-- Wherever the path leads in both data, the next segment finds related values. -/
def AgreesAlong (R : Value → Value → Prop) (cells cells' : Cells) (root root' : Value)
    (path : String) : Prop :=
  AgreesOn R cells cells' (origin cells root) (origin cells' root') (Value.segments path)

theorem AgreesAlong.rel_resolve (hnull : R .null .null)
    (h : AgreesAlong R cells cells' root root' path) :
    Except.Rel R (root.resolve cells path) (root'.resolve cells' path) := by
  by_cases hempty : path = ""
  · subst hempty
    exact .ok hnull
  · rw [resolve_eq_walk hempty, resolve_eq_walk hempty]
    exact h.rel_walk (segments_ne_nil path)

end Value

open Value (AgreesAlong AlikeOutside KeepsItems UnfoldsAlike)

variable {cells cells' : Cells} {root root' : Value} {path : String}

theorem Definition.adjustment?_weight_congr
    (h : AgreesAlong AlikeOutside cells cells' root root' path) (id : String)
    (weights : PointTable) (reason : Option String) :
    (Definition.weight path weights reason).adjustment? id cells root =
      (Definition.weight path weights reason).adjustment? id cells' root' := by
  unfold Definition.adjustment?
  refine (h.rel_resolve (.refl .null)).bind_eq fun v v' _ _ hv => ?_
  rw [Value.weightKey_congr hv]

theorem Condition.holds_congr (h : AgreesAlong AlikeOutside cells cells' root root' path)
    {c : Condition} (hfield : c.field = path)
    (hend : c.comparison.looksInside = false ∨ ∀ v v', root.resolve cells path = .ok v →
      root'.resolve cells' path = .ok v' → UnfoldsAlike cells cells' v v') :
    c.holds cells root = c.holds cells' root' := by
  subst hfield
  refine (h.rel_resolve (.refl .null)).bind_eq fun v v' hv hv' houtside => ?_
  rcases hend with hend | hend
  · exact Comparison.holds_congr_of_alikeOutside houtside c.comparand hend
  · exact Comparison.holds_congr houtside (hend v v' hv hv') c.comparand c.comparison

namespace Value

/-- A path is resolved by lookups along it and by nothing else.  Data in which these find the same,
however else they refer back to themselves, resolve it alike, and so give the same weights and meet
the same conditions on it, unless a condition looks into a container at the end of the path. -/
theorem resolve_depends_on_lookups (cells cells' : Cells) (root root' : Value) (path : String) :
    LooksUpInOrder cells root path ∧
      (∀ R : Value → Value → Prop, R .null .null → AgreesAlong R cells cells' root root' path →
        Except.Rel R (root.resolve cells path) (root'.resolve cells' path)) ∧
      (List.Forall₂ AlikeOutside cells cells' →
        KeepsItems cells cells' (origin cells root) (origin cells' root') (Value.segments path) →
          AgreesAlong AlikeOutside cells cells' root root' path) ∧
      (AgreesAlong AlikeOutside cells cells' root root' path →
        (∀ id weights reason, (Definition.weight path weights reason).adjustment? id cells root =
          (Definition.weight path weights reason).adjustment? id cells' root') ∧
        ∀ c : Condition, c.field = path →
          (c.comparison.looksInside = false ∨ ∀ v v', root.resolve cells path = .ok v →
            root'.resolve cells' path = .ok v' → UnfoldsAlike cells cells' v v') →
          c.holds cells root = c.holds cells' root') :=
  ⟨looksUpInOrder cells root path, fun _ hnull h => h.rel_resolve hnull,
    AgreesOn.of_keepsItems,
    fun h => ⟨Definition.adjustment?_weight_congr h, fun _ => Condition.holds_congr h⟩⟩

/-- A lead with one field, and that in a cell. -/
def fieldRoot : Value := .map [(.text "fields", .map [(.text "x", .shared 0)])]

/-- A field that holds itself has the size of one that does not. -/
theorem resolve_depends_on_lookups_loop :
    (⟨"fields.x.size", .equals, .int 5⟩ : Condition).holds
      [.map [(.text "self", .shared 0), (.text "size", .int 5)]] fieldRoot = .ok true := by
  let loop : Cells := [.map [(.text "self", .shared 0), (.text "size", .int 5)]]
  let plain : Cells := [.map [(.text "size", .int 5)]]
  obtain ⟨-, -, hagrees, hsame⟩ :=
    resolve_depends_on_lookups loop plain fieldRoot fieldRoot "fields.x.size"
  have hitems : KeepsItems loop plain fieldRoot fieldRoot (Value.segments "fields.x.size") := by
    refine .cons rfl fun w w' hw hw' => ?_
    cases hw
    cases hw'
    refine .cons rfl fun w w' hw hw' => ?_
    cases hw
    cases hw'
    exact .cons rfl fun _ _ _ _ => .nil
  have halike : ∀ v v', fieldRoot.resolve loop "fields.x.size" = .ok v →
      fieldRoot.resolve plain "fields.x.size" = .ok v' → UnfoldsAlike loop plain v v' := by
    intro v v' hv hv'
    cases hv
    cases hv'
    exact UnfoldsAlike.leaf rfl
  exact ((hsame (hagrees (.cons (.map _ _) .nil) hitems)).2 _ rfl (.inr halike)).trans rfl

end Value

/-- A reference that is added to the container at the end of a path is none that the path looks up,
but one that a comparison sees. -/
theorem Condition.holds_selfReference :
    KeepsItems [.map []] [.map [(.text "self", .shared 0)]] Value.fieldRoot Value.fieldRoot
        (Value.segments "fields.x") ∧
      (⟨"fields.x", .equals, .map []⟩ : Condition).holds [.map []] Value.fieldRoot = .ok true ∧
      (⟨"fields.x", .equals, .map []⟩ : Condition).holds [.map [(.text "self", .shared 0)]]
        Value.fieldRoot = .ok false := by
  refine ⟨.cons rfl fun w w' hw hw' => ?_, rfl, rfl⟩
  cases hw
  cases hw'
  exact .cons rfl fun _ _ _ _ => .nil

end Qualify
