/-!
# Sets of code points

A set of code points is a list of disjoint ranges in ascending order, so that a search can stop at
the first range that starts past the code point it looks for.
-/

namespace Qualify.Text

/-- Ranges of code points, both ends included, in ascending order. -/
abbrev Ranges := List (Nat × Nat)

/-- Does some range hold the code point? -/
def Ranges.covers : Ranges → Nat → Bool
  | [], _ => false
  | (first, last) :: rest, n => first ≤ n && (n ≤ last || Ranges.covers rest n)

@[simp] theorem Ranges.covers_nil (n : Nat) : Ranges.covers [] n = false := rfl

@[simp] theorem Ranges.covers_cons (r : Nat × Nat) (rest : Ranges) (n : Nat) :
    Ranges.covers (r :: rest) n = (decide (r.1 ≤ n) && (decide (n ≤ r.2) || rest.covers n)) := rfl

end Qualify.Text
