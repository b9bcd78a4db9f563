import Qualify.Value.Same

/-!
# JSON documents

A document as it is written: the entries of an object in order, integers told apart from other
numbers.
-/

namespace Qualify

inductive Json where
  | null
  | bool (b : Bool)
  | int (n : Int)
  | float (x : Binary64)
  | text (s : String)
  | array (items : List Json)
  | object (entries : List (String × Json))
deriving Inhabited

namespace Json

mutual

/-- The document as a value. Of entries with one key the last counts, in the first one's place. -/
def toValue (j : Json) : Value :=
  match j with
  | .null => .null
  | .bool b => .bool b
  | .int n => .int n
  | .float x => .float x
  | .text s => .text s
  | .array xs => .list (toValues xs)
  | .object es => .map (toEntries es [])
termination_by structural j

def toValues (xs : List Json) : List Value :=
  match xs with
  | [] => []
  | x :: xs => toValue x :: toValues xs
termination_by structural xs

def toEntries (es : List (String × Json)) (before : List (Value × Value)) : List (Value × Value) :=
  match es with
  | [] => before
  | (k, x) :: es => toEntries es (Value.withEntry k (toValue x) before)
termination_by structural es

end

/-- The value of the last entry with a key. -/
def get? (j : Json) (key : String) : Option Json :=
  match j with
  | .object es => (es.reverse.find? (·.1 == key)).map (·.2)
  | _ => none

def items : Json → List Json
  | .array xs => xs
  | _ => []

def text? : Json → Option String
  | .text s => some s
  | _ => none

end Json

namespace Value

mutual

/-- The document that denotes a value, if there is one: keys have to be texts. -/
def json? (v : Value) : Option Json :=
  match v with
  | .null => some .null
  | .bool b => some (.bool b)
  | .int n => some (.int n)
  | .float x => some (.float x)
  | .text s => some (.text s)
  | .list xs => (jsons? xs).map .array
  | .map es => (jsonEntries? es).map .object
  | _ => none
termination_by structural v

def jsons? (vs : List Value) : Option (List Json) :=
  match vs with
  | [] => some []
  | v :: vs => do return (← json? v) :: (← jsons? vs)
termination_by structural vs

def jsonEntries? (es : List (Value × Value)) : Option (List (String × Json)) :=
  match es with
  | [] => some []
  | (k, v) :: es => do return (← k.text?, ← json? v) :: (← jsonEntries? es)
termination_by structural es

end

end Value

end Qualify
