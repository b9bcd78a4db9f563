import Qualify.Calendar
import Qualify.Failure
import Qualify.Scorecard

/-!
# Values

Leads, scorecards and rules arrive as data of any shape. A value is a scalar, a collection of values
or one of the library's own objects. Data that refers back to itself is written with numbered cells:
`shared n` stands for the container in cell `n`.
-/

namespace Qualify

/-- The two kinds of rules. -/
inductive RuleKind where
  | ifThen
  | weight
deriving Repr, DecidableEq, Inhabited

inductive Value where
  | null
  | bool (b : Bool)
  | int (n : Int)
  | float (x : Binary64)
  | decimal (d : Decimal)
  | text (s : String)
  | bytes (bs : List UInt8)
  | list (items : List Value)
  | tuple (items : List Value)
  | set (members : List Value)
  | frozenSet (members : List Value)
  /-- Entries in order, no two with equal keys. -/
  | map (entries : List (Value × Value))
  | date (d : Date)
  | timestamp (t : Timestamp)
  /-- The container in a cell. -/
  | shared (cell : Nat)
  /-- A value that refuses to be compared and says so with a text. -/
  | incomparable (text : String)
  | lead (email name company domain fields utm extra : Value)
  | rule (id : String) (teamId : Option String) (kind : RuleKind) (enabled : Bool) (order : Int)
      (definition : Value)
  | scorecard (c : Scorecard)
  | bands (t : Thresholds)
deriving Inhabited

/-- The containers that values share, by number. -/
abbrev Cells := List Value

namespace Cells

/-- The container behind a shared value; every other value stands for itself. -/
def deref (cells : Cells) : Value → Value
  | .shared n => cells.getD n .null
  | v => v

end Cells

namespace Value

/-- The entries of a mapping. -/
def entries? : Value → Option (List (Value × Value))
  | .map es => some es
  | _ => none

/-- The members of a list, tuple or set. -/
def members? : Value → Option (List Value)
  | .list xs | .tuple xs | .set xs | .frozenSet xs => some xs
  | _ => none

def text? : Value → Option String
  | .text s => some s
  | _ => none

def isBool : Value → Bool
  | .bool _ => true
  | _ => false

def isNull : Value → Bool
  | .null => true
  | _ => false

def isMap (v : Value) : Bool := v.entries?.isSome

/-- The exact value of a number, truth values counted as one and zero. -/
def number? : Value → Option Decimal
  | .bool b => some (.ofInt (if b then 1 else 0))
  | .int n => some (.ofInt n)
  | .float x => some x.toDecimal
  | .decimal d => some d
  | _ => none

/-- Is the value a number and no truth value? -/
def isNumber : Value → Bool
  | .int _ | .float _ | .decimal _ => true
  | _ => false

def isDecimal : Value → Bool
  | .decimal _ => true
  | _ => false

/-- The value under a key that is a text. -/
def lookup (key : String) : List (Value × Value) → Option Value
  | [] => none
  | (.text k, v) :: es => if k = key then some v else lookup key es
  | _ :: es => lookup key es

/-- The value under a text key of a mapping. -/
def get? (v : Value) (key : String) : Option Value := v.entries?.bind (lookup key)

/-- The entries with the value under a text key set; a key that is there keeps its place. -/
def withEntry (key : String) (v : Value) : List (Value × Value) → List (Value × Value)
  | [] => [(.text key, v)]
  | (k, w) :: es =>
    match k with
    | .text k' => if k' = key then (k, v) :: es else (k, w) :: withEntry key v es
    | _ => (k, w) :: withEntry key v es

/-- The name of a value's type in messages. -/
def typeName : Value → String
  | .null => "NoneType"
  | .bool _ => "bool"
  | .int _ => "int"
  | .float _ => "float"
  | .decimal _ => "Decimal"
  | .text _ => "str"
  | .bytes _ => "bytes"
  | .list _ => "list"
  | .tuple _ => "tuple"
  | .set _ => "set"
  | .frozenSet _ => "frozenset"
  | .map _ => "dict"
  | .date _ => "date"
  | .timestamp _ => "datetime"
  | .shared _ => "dict"
  | .incomparable _ => "object"
  | .lead .. => "Lead"
  | .rule .. => "ScoringRule"
  | .scorecard _ => "ScoringConfig"
  | .bands _ => "BandThresholds"

/-- The name of a value's type where it is qualified by its family. -/
def qualifiedTypeName : Value → String
  | .decimal _ => "decimal.Decimal"
  | .date _ => "datetime.date"
  | .timestamp _ => "datetime.datetime"
  | v => v.typeName

/-- Does the value count as absent where a collection is optional? Zero, the empty text and the
empty collections do. -/
def isEmpty : Value → Bool
  | .null => true
  | .bool b => !b
  | .int n => n == 0
  | .float (.finite _ m _) => m == 0
  | .decimal (.finite _ c _) => c == 0
  | .text s => s.isEmpty
  | .bytes bs => bs.isEmpty
  | .list xs | .tuple xs | .set xs | .frozenSet xs => xs.isEmpty
  | .map es => es.isEmpty
  | _ => false

end Value

end Qualify
