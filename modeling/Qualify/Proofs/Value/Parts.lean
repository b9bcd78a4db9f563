import Qualify.Value

/-!
# The parts of a value

A value is made of the values directly inside it: the members of a collection, the keys and values
of a mapping, the attributes of one of the library's objects.  `Value.inductionOnParts` is induction
along them, so that a property of all values takes one step for each kind of value and no recursion
over lists of its own.

A shared value has no parts: what stands in its cell is not inside it, and may well lead back to it.
-/

namespace Qualify.Value

/-- The values directly inside a value. -/
def parts : Value → List Value
  | .list xs | .tuple xs | .set xs | .frozenSet xs => xs
  | .map es => es.flatMap fun e => [e.1, e.2]
  | .lead email name company domain fields utm extra =>
    [email, name, company, domain, fields, utm, extra]
  | .rule _ _ _ _ _ definition => [definition]
  | _ => []

theorem mem_parts_map {es : List (Value × Value)} {w : Value} :
    w ∈ (Value.map es).parts ↔ ∃ e ∈ es, w = e.1 ∨ w = e.2 := by
  simp [parts, List.mem_flatMap]

/-- What holds of a value whenever it holds of all its parts holds of every value. -/
theorem inductionOnParts {P : Value → Prop} (step : ∀ v, (∀ w ∈ v.parts, P w) → P v) :
    ∀ v, P v := by
  have leaf : ∀ v : Value, v.parts = [] → P v := fun v h => step v (by simp [h])
  refine Value.rec (motive_1 := P) (motive_2 := fun xs => ∀ x ∈ xs, P x)
    (motive_3 := fun es => ∀ e ∈ es, P e.1 ∧ P e.2) (motive_4 := fun e => P e.1 ∧ P e.2)
    (leaf _ rfl) (fun _ => leaf _ rfl) (fun _ => leaf _ rfl) (fun _ => leaf _ rfl)
    (fun _ => leaf _ rfl) (fun _ => leaf _ rfl) (fun _ => leaf _ rfl)
    (fun _ ih => step _ ih) (fun _ ih => step _ ih) (fun _ ih => step _ ih) (fun _ ih => step _ ih)
    ?map (fun _ => leaf _ rfl) (fun _ => leaf _ rfl) (fun _ => leaf _ rfl) (fun _ => leaf _ rfl)
    ?lead ?rule (fun _ => leaf _ rfl) (fun _ => leaf _ rfl) ?nil ?cons ?nilEntry ?consEntry ?entry
  case map =>
    intro es ih
    refine step _ fun w hw => ?_
    obtain ⟨e, he, rfl | rfl⟩ := mem_parts_map.mp hw
    · exact (ih e he).1
    · exact (ih e he).2
  case lead =>
    intro email name company domain fields utm extra h₁ h₂ h₃ h₄ h₅ h₆ h₇
    exact step _ (by simp [parts, h₁, h₂, h₃, h₄, h₅, h₆, h₇])
  case rule =>
    intro _ _ _ _ _ definition ih
    exact step _ (by simp [parts, ih])
  case nil => exact List.forall_mem_nil _
  case cons => exact fun x xs hx hxs => List.forall_mem_cons.mpr ⟨hx, hxs⟩
  case nilEntry => exact List.forall_mem_nil _
  case consEntry => exact fun e es he hes => List.forall_mem_cons.mpr ⟨he, hes⟩
  case entry => exact fun k v hk hv => ⟨hk, hv⟩

/-- Only a shared value stands for another one. -/
theorem deref_of_not_shared {cells : Cells} {v : Value} (h : ∀ n, v ≠ .shared n) :
    cells.deref v = v := by
  cases v with
  | shared n => exact absurd rfl (h n)
  | _ => rfl

end Qualify.Value
