import Qualify.Text.Digit
import Qualify.Text.Pieces
import Qualify.Text.Quoted
import Qualify.Value

/-!
# Paths

A path names a value inside another by segments between dots. Each segment goes exactly one level
deeper: into a mapping by key, into a list or tuple by position. A segment that finds nothing ends
the walk with null, so a walk takes at most as many steps as the path has segments, whatever the
value refers back to.
-/

namespace Qualify

/-- Digits of any kind and at least one of them: such a segment is a position. -/
def isPosition (segment : List Char) : Bool := !segment.isEmpty && segment.all Text.isDigit

/-- The number that a position denotes. Digits without a decimal value stand for no number. -/
def position (segment : List Char) : Except Failure Nat :=
  let leading := segment.takeWhile Text.isDecimalDigit
  if digitLimit < leading.length then .error (.longNumeral leading.length)
  else if leading.length = segment.length then
    .ok (Text.numberOfDigits (segment.filterMap Text.decimalValue?))
  else .error (.noInteger 10 (String.ofList ((Text.quoted segment).take 200)))

namespace Value

/-- One step along a path. -/
def step (cells : Cells) (v : Value) (segment : List Char) : Except Failure Value :=
  match v with
  | .map es => .ok (cells.deref ((lookup (String.ofList segment) es).getD .null))
  | .list xs | .tuple xs =>
    if isPosition segment then do
      let n ← position segment
      return cells.deref (xs.getD n .null)
    else .ok .null
  | _ => .ok .null

/-- The walk along the segments of a path. -/
def walk (cells : Cells) (v : Value) : List (List Char) → Except Failure Value
  | [] => .ok v
  | s :: rest =>
    if v.isNull then .ok .null
    else do walk cells (← v.step cells s) rest

@[simp] theorem walk_nil (cells : Cells) (v : Value) : v.walk cells [] = .ok v := rfl

theorem walk_cons (cells : Cells) (v : Value) (s : List Char) (rest : List (List Char)) :
    v.walk cells (s :: rest) =
      if v.isNull then .ok .null else (v.step cells s >>= fun w => w.walk cells rest) := rfl

/-- The segments of a path. -/
def segments (path : String) : List (List Char) := Text.splitOn '.' path.toList

/-- The mapping that a lead's paths start from: its further entries with its own attributes set. -/
def attributes : Value → Value
  | .lead email name company domain fields utm extra =>
    let es := (extra.entries?).getD []
    .map <| es |> withEntry "email" email |> withEntry "name" name |> withEntry "company" company
      |> withEntry "domain" domain |> withEntry "fields" fields |> withEntry "utm" utm
  | v => v

/-- The value at a path; the empty path leads nowhere. -/
def resolve (cells : Cells) (root : Value) (path : String) : Except Failure Value :=
  if path = "" then .ok .null
  else (cells.deref root).attributes.walk cells (segments path)

/-- Is the value neither null nor the empty text? A value that refuses comparison is asked. -/
def isFilled : Value → Except Failure Bool
  | .null => .ok false
  | .text s => .ok (s != "")
  | .incomparable t => .error (.incomparable t)
  | _ => .ok true

/-- The first filled value along the paths, or null. -/
def firstFilled (cells : Cells) (root : Value) : List String → Except Failure Value
  | [] => .ok .null
  | p :: ps => do
    let v ← resolve cells root p
    if ← v.isFilled then return v else firstFilled cells root ps

end Value

end Qualify
