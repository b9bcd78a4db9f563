import Qualify.Yaml.Cursor

/-!
# Building in stages

A collection is there before what it holds: that is built one stage later, when everything else of
the collection's own stage has been built. What goes wrong first, by stages and in order within a
stage, is what goes wrong with the whole.
-/

namespace Qualify.Yaml

/-- What is built, and what goes wrong at each stage, in order. The result counts only if nothing
does. -/
structure Staged (α : Type) where
  faults : List (List Fault)
  result : α

namespace Staged

variable {α β : Type}

/-- What goes wrong with two things that are built side by side. -/
def beside : List (List Fault) → List (List Fault) → List (List Fault)
  | [], ys => ys
  | xs, [] => xs
  | x :: xs, y :: ys => (x ++ y) :: beside xs ys

instance : Monad Staged where
  pure a := ⟨[], a⟩
  bind m f := ⟨beside m.faults (f m.result).faults, (f m.result).result⟩

def fail [Inhabited α] (f : Fault) : Staged α := ⟨[[f]], default⟩

/-- At the next stage. -/
def later (m : Staged α) : Staged α := ⟨[] :: m.faults, m.result⟩

def ofExcept [Inhabited α] : Except Fault α → Staged α
  | .ok a => pure a
  | .error f => fail f

/-- What is built, or what goes wrong first. -/
def outcome (m : Staged α) : Except Fault α :=
  match m.faults.flatten with
  | [] => .ok m.result
  | f :: _ => .error f

end Staged

end Qualify.Yaml
