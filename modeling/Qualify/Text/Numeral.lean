import Qualify.Failure
import Qualify.Number.Decimal
import Qualify.Text.Quoted

/-!
# Numerals in a base

Integers in base two, eight, ten or sixteen, with blanks around them, a sign, the mark of the base
and single underscores between digits. Decimal digits may be of any script.
-/

namespace Qualify.Text

/-- The value of a digit in a base. -/
def digitIn? (base : Nat) (c : Char) : Option Nat :=
  ((decimalValue? c).or (hexValue? c)).filter (· < base)

/-- The letter that marks a base behind a zero. -/
def baseMark? : Nat → Option Char
  | 2 => some 'b'
  | 8 => some 'o'
  | 16 => some 'x'
  | _ => none

/-- Past the mark of a base, with an underscore behind it. -/
def pastBaseMark (base : Nat) (cs : List Char) : List Char :=
  match cs with
  | '0' :: m :: rest =>
    if (baseMark? base).any fun b => m.toLower = b then
      match rest with
      | '_' :: rest => rest
      | rest => rest
    else cs
  | cs => cs

/-- The digits of a numeral whose underscores stand between two of them. -/
def digitsIn? (base : Nat) (cs : List Char) : Option (List Nat) :=
  if cs.isEmpty || cs.head? = some '_' || cs.getLast? = some '_' || occursTwice cs then none
  else (cs.filter (· ≠ '_')).mapM (digitIn? base)
where
  /-- Do two underscores stand side by side? -/
  occursTwice : List Char → Bool
    | '_' :: '_' :: _ => true
    | _ :: rest => occursTwice rest
    | [] => false

/-- The integer that a numeral in a base denotes. Decimal numerals may not be too long. -/
def integerIn (base : Nat) (cs : List Char) : Except Failure Int :=
  let body := trim cs
  let (negative, rest) := Decimal.takeSign body
  match digitsIn? base (pastBaseMark base rest) with
  | none => .error (.noInteger base (String.ofList ((quoted cs).take 200)))
  | some ds =>
    if base = 10 ∧ digitLimit < ds.length then .error (.longNumeral ds.length)
    else
      let n := ds.foldl (fun n d => base * n + d) 0
      .ok (if negative then -(n : Int) else n)

end Qualify.Text
