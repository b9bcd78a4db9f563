/-!
# Powers of two and ten

The factors by which binary numbers and decimals are shifted.
-/

namespace Qualify

/-- Two to a power. -/
abbrev twoTo (n : Nat) : Nat := Nat.pow 2 n

/-- Ten to a power. -/
abbrev tenTo (n : Nat) : Nat := Nat.pow 10 n

end Qualify
