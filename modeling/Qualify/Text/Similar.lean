/-!
# Similar texts

Two texts are as similar as they have characters in common blocks: the longest common block, and the
blocks to its left and to its right. The texts that are similar enough to one are offered for it.
-/

namespace Qualify.Text

/-- A block that two texts have in common: where it starts in each, and its length. -/
structure Block where
  left : Nat := 0
  right : Nat := 0
  length : Nat := 0

/-- The length of the longest common start. -/
def commonLength : List Char → List Char → Nat
  | a :: as, b :: bs => if a = b then commonLength as bs + 1 else 0
  | _, _ => 0

/-- The longest block that starts at one place of the first text, if it is longer than the best. -/
def blockAt (left : Nat) (as : List Char) : (right : Nat) → List Char → Block → Block
  | _, [], best => best
  | right, b :: bs, best =>
    let n := commonLength as (b :: bs)
    blockAt left as (right + 1) bs (if best.length < n then ⟨left, right, n⟩ else best)

/-- The longest common block; of several the first one. -/
def longestBlock (bs : List Char) : (left : Nat) → List Char → Block → Block
  | _, [], best => best
  | left, a :: as, best => longestBlock bs (left + 1) as (blockAt left (a :: as) 0 bs best)

/-- How many characters are in common blocks. -/
def commonCount : (fuel : Nat) → List Char → List Char → Nat
  | 0, _, _ => 0
  | fuel + 1, as, bs =>
    let b := longestBlock bs 0 as {}
    if b.length = 0 then 0
    else
      b.length + commonCount fuel (as.take b.left) (bs.take b.right) +
        commonCount fuel (as.drop (b.left + b.length)) (bs.drop (b.right + b.length))

/-- What of two texts taken together is in common blocks, as a numerator and a denominator. -/
def similarity (s t : String) : Nat × Nat :=
  (2 * commonCount (s.length + 1) s.toList t.toList, s.length + t.length)

/-- The candidates of which at least three fifths are common with a text, the most similar ones
first, three at most. -/
def similarTo (s : String) (candidates : List String) : List String :=
  let scored := candidates.map fun c => (similarity c s, c)
  let close := scored.filter fun c => 3 * c.1.2 ≤ 5 * c.1.1
  let precedes (a b : (Nat × Nat) × String) : Bool :=
    let (x, y) := (a.1.1 * b.1.2, b.1.1 * a.1.2)
    y < x || (x == y && b.2 ≤ a.2)
  ((close.mergeSort precedes).take 3).map (·.2)

end Qualify.Text
