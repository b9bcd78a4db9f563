import Qualify.Text.Case

/-!
# Case folding of code points

A pattern that ignores case compares the lower case of code points. Lower-case letters that share
their upper case, such as the two forms of a small sigma, count as one letter then.
-/

namespace Qualify.Pattern

open Text

/-- Which letters are compared without their case. -/
inductive Folding where
  | none
  | basic
  | full
deriving Repr, DecidableEq, Inhabited

/-- Lower-case letters with one upper case. -/
def variantClasses : List (List Nat) := [
  [0x69, 0x131], [0x73, 0x17F], [0xB5, 0x3BC], [0x345, 0x3B9, 0x1FBE], [0x390, 0x1FD3],
  [0x3B0, 0x1FE3], [0x3B2, 0x3D0], [0x3B5, 0x3F5], [0x3B8, 0x3D1], [0x3BA, 0x3F0], [0x3C0, 0x3D6],
  [0x3C1, 0x3F1], [0x3C2, 0x3C3], [0x3C6, 0x3D5], [0x432, 0x1C80], [0x434, 0x1C81],
  [0x43E, 0x1C82], [0x441, 0x1C83], [0x442, 0x1C84, 0x1C85], [0x44A, 0x1C86], [0x463, 0x1C87],
  [0x1C88, 0xA64B], [0x1E61, 0x1E9B], [0xFB05, 0xFB06]]

def isBasicUpper (n : Nat) : Bool := 0x41 ≤ n && n ≤ 0x5A

def isBasicLower (n : Nat) : Bool := 0x61 ≤ n && n ≤ 0x7A

namespace Folding

def fold : Folding → Nat → Nat
  | none, n => n
  | basic, n => if isBasicUpper n then n + 0x20 else n
  | full, n => lowerPoint n

/-- Is there another case of the code point? -/
def isCased : Folding → Nat → Bool
  | none, _ => false
  | basic, n => isBasicUpper n || isBasicLower n
  | full, n => lowerPoint n != n || upperPoint n != n

/-- The folded code points that count as a given one. -/
def variants : Folding → Nat → List Nat
  | full, n => (variantClasses.find? (·.contains n)).getD [n]
  | _, n => [n]

/-- Does a code point equal a literal one? -/
def same (f : Folding) (n literal : Nat) : Bool :=
  if f.isCased literal then (f.variants (f.fold literal)).contains (f.fold n) else n == literal

/-- The code points with a given folded one. -/
def sources : Folding → Nat → List Nat
  | none, n => [n]
  | basic, n => if isBasicLower n then [n, n - 0x20] else if isBasicUpper n then [] else [n]
  | full, n =>
    (if lowerPoint n = n then [n] else []) ++ (if n = 0x69 then [0x130] else []) ++
      lowerRuns.filterMap (·.source? n)

/-- Is there a cased code point between two bounds? -/
def meetsCased (f : Folding) (low high : Nat) : Bool :=
  match f with
  | none => false
  | basic => (low ≤ 0x5A && 0x41 ≤ high) || (low ≤ 0x7A && 0x61 ≤ high)
  | full =>
    (low ≤ 0x130 && 0x130 ≤ high) || lowerRuns.any (·.meets low high) ||
      upperRuns.any (·.meets low high) || upperExpansions.any fun e => low ≤ e.1 && e.1 ≤ high

end Folding

end Qualify.Pattern
