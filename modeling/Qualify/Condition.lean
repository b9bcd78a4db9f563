import Qualify.Path
import Qualify.Pattern.Match
import Qualify.Pattern.Reader
import Qualify.Rule
import Qualify.Text.Case
import Qualify.Value.Same

/-!
# Conditions

A condition compares the value at its path with its comparand. Values that a comparison makes no
sense of do not meet it: order is of numbers only, beginnings and ends are of texts. Truth values
never equal numbers here.
-/

namespace Qualify

namespace Comparison

/-- Equality that keeps truth values apart from numbers. -/
def areEqual (cells : Cells) (actual expected : Value) : Except Failure Bool :=
  if (cells.deref actual).isBool != expected.isBool then .ok false
  else actual.same cells expected

/-- Is there an item for which a test holds? Items are tried in order up to the first such. -/
def anyHolds (test : Value → Except Failure Bool) : List Value → Except Failure Bool
  | [] => .ok false
  | x :: xs => do
    if ← test x then return true
    anyHolds test xs

/-- The order of two numbers; other values have none. No number among decimals is refused. -/
def order? (actual expected : Value) : Except Failure (Option Ordering) :=
  let refuses := (actual.isDecimal || expected.isDecimal) &&
    ((actual.number?.map Decimal.isNaN).getD false || (expected.number?.map Decimal.isNaN).getD false)
  if !actual.isNumber || !expected.isNumber then .ok none
  else if refuses then .error (.arithmetic .invalidOperation)
  else .ok (actual.number?.bind fun a => expected.number?.bind fun b => a.cmp? b)

/-- Is the order of two numbers one of these? -/
def isOrdered (orders : List Ordering) (actual expected : Value) : Except Failure Bool := do
  return (← order? actual expected).any orders.contains

def lowered (s : String) : List Char := Text.lower s.toList

/-- Does a text or collection contain a value? Texts contain texts without regard to case. -/
def containsValue (cells : Cells) (actual expected : Value) : Except Failure Bool :=
  match actual with
  | .text s =>
    if expected.isNull then .ok false
    else do return Text.occursIn (lowered (← expected.toText)) (lowered s)
  | .list xs | .tuple xs | .set xs | .frozenSet xs =>
    anyHolds (fun x => areEqual cells x expected) xs
  | _ => .ok false

/-- Can the value contain anything? -/
def isContainer : Value → Bool
  | .text _ => true
  | v => v.members?.isSome

/-- Do two texts stand in a relation without regard to case? -/
def onTexts (r : List Char → List Char → Bool) (actual expected : Value) : Bool :=
  match actual, expected with
  | .text s, .text t => r (lowered t) (lowered s)
  | _, _ => false

/-- Does a pattern match the text of a value? Null, mappings, lists and tuples have none here. -/
def matchesPattern (actual expected : Value) : Except Failure Bool :=
  match expected, actual with
  | .text _, .null | .text _, .map _ | .text _, .list _ | .text _, .tuple _ => .ok false
  | .text pattern, v => do
    let subject ← v.toText
    match ← Pattern.ofText pattern with
    | some p => return p.occursIn subject
    | none => return false
  | _, _ => .ok false

/-- Is the value neither null nor the empty text? -/
def isPresent : Value → Bool
  | .null => false
  | .text s => s != ""
  | _ => true

/-- Is the value equal to a member of a collection? -/
def isAmong (cells : Cells) (actual expected : Value) : Except Failure Bool :=
  anyHolds (areEqual cells actual) (expected.members?.getD [])

/-- Does the comparison hold of a value and a comparand? -/
def holds (cells : Cells) (actual expected : Value) : Comparison → Except Failure Bool
  | equals => areEqual cells actual expected
  | notEquals => return !(← areEqual cells actual expected)
  | greaterThan => isOrdered [.gt] actual expected
  | lessThan => isOrdered [.lt] actual expected
  | greaterEqual => isOrdered [.gt, .eq] actual expected
  | lessEqual => isOrdered [.lt, .eq] actual expected
  | contains => containsValue cells actual expected
  | notContains =>
    if isContainer actual then return !(← containsValue cells actual expected) else .ok false
  | startsWith => .ok (onTexts List.isPrefixOf actual expected)
  | endsWith => .ok (onTexts List.isSuffixOf actual expected)
  | regex => matchesPattern actual expected
  | isIn => isAmong cells actual expected
  | notIn => return !(← isAmong cells actual expected)
  | «exists» => .ok (isPresent actual)
  | notExists => .ok (!isPresent actual)

end Comparison

namespace Condition

/-- Does a lead's attributes or any other value meet the condition? -/
def holds (c : Condition) (cells : Cells) (root : Value) : Except Failure Bool := do
  c.comparison.holds cells (← root.resolve cells c.field) c.comparand

/-- Are all of several conditions met? They are tried in order up to the first that is not. -/
def allHold (cells : Cells) (root : Value) : List Condition → Except Failure Bool
  | [] => .ok true
  | c :: cs => do
    if ← c.holds cells root then allHold cells root cs else return false

end Condition

end Qualify
