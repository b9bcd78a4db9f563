import Qualify.Failure
import Qualify.Pattern.Item
import Qualify.Pattern.Token

/-!
# The state of reading a pattern

The tokens to come, the groups met so far and the flags of the whole pattern.
-/

namespace Qualify.Pattern

/-- Why a pattern cannot be read. -/
inductive Fault where
  | malformed
  | failed (f : Failure)

/-- What is known while a pattern is read. -/
structure Progress where
  rest : List Token
  /-- The widths of the groups so far, none for those still open; the whole is group zero. -/
  groups : List (Option Width) := [none]
  names : List (String × Nat) := []
  /-- The number of groups before the look-behind at hand. -/
  behind : Option Nat := none
  /-- The groups that conditions ask for by number. -/
  asked : List Nat := []
  flags : Flags := { ignoreCase := true }
  /-- Has something been read that is well-formed and cannot be matched? -/
  unusable : Bool := false

abbrev Reading := StateT Progress (Except Fault)

def malformed {α : Type} : Reading α := throw .malformed

/-- The next token, which stays. -/
def peek : Reading (Option Token) := do return (← get).rest.head?

/-- The next token, taken. -/
def take : Reading (Option Token) := do
  let s ← get
  match s.rest with
  | [] => return none
  | t :: rest =>
    set { s with rest }
    return some t

/-- Takes a character if it is the next one. -/
def accept (c : Char) : Reading Bool := do
  if (← peek) = some (.plain c) then
    let _ ← take
    return true
  else return false

/-- The characters of a kind that come next, at most so many. -/
def takeWhile (p : Char → Bool) : Nat → Reading (List Char)
  | 0 => return []
  | n + 1 => do
    match ← peek with
    | some (.plain c) =>
      if p c then
        let _ ← take
        return c :: (← takeWhile p n)
      else return []
    | _ => return []

/-- What stands before a closing character, which is taken too; it must not be empty. -/
def takeUntil (close : Char) : Reading (List Char) := do
  let s ← get
  let before := s.rest.takeWhile (· ≠ .plain close)
  if before.length = s.rest.length || before.isEmpty then malformed
  else
    set { s with rest := s.rest.drop (before.length + 1) }
    return before.flatMap Token.chars

end Qualify.Pattern
