import Qualify.Number.Power
import Qualify.Pattern.Flags

/-!
# Items of patterns

An item is a part of a pattern as read. Its width bounds the number of characters that it can match,
which an assertion about what comes before has to know.
-/

namespace Qualify.Pattern

/-- The least and the greatest number of characters that a part can match. -/
structure Width where
  least : Nat
  most : Nat
deriving DecidableEq

namespace Width

/-- Widths end here. -/
def limit : Nat := twoTo 64

def zero : Width := ⟨0, 0⟩
def one : Width := ⟨1, 1⟩

def add (a b : Width) : Width := ⟨min (a.least + b.least) limit, min (a.most + b.most) limit⟩

/-- The width of either of two parts. -/
def either (a b : Width) : Width := ⟨min a.least b.least, max a.most b.most⟩

/-- Bounds of repetitions end here. -/
def repeatLimit : Nat := twoTo 32 - 1

def repeated (a : Width) (least : Nat) (most : Option Nat) : Width :=
  ⟨min (a.least * least) limit,
    match most with
    | some n => min (a.most * n) limit
    | none => if a.most = 0 then 0 else limit⟩

end Width

/-- What an item of a sequence is to a repetition mark behind it. -/
inductive ItemKind where
  | anchor
  | repetition
  | other
deriving DecidableEq

/-- A part of a pattern as read. -/
structure Item where
  pattern : Pattern
  width : Width := .zero
  kind : ItemKind := .other

namespace Item

/-- A sequence of items, the last one first. -/
def ofReversed : List Item → Item
  | [] => ⟨.empty, .zero, .other⟩
  | [i] => i
  | i :: is => is.foldl (fun acc j => ⟨.seq j.pattern acc.pattern, j.width.add acc.width, .other⟩) i

end Item

end Qualify.Pattern
