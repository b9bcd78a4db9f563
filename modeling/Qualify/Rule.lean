import Qualify.Value.Text

/-!
# Rules

A team's rule adds points to the base score. A conditional rule adds its adjustment to leads that
meet all its conditions; a weight rule looks the value of a field up in a table. A rule keeps its
definition as data, so that a definition that cannot be read spoils no other rule.
-/

namespace Qualify

/-- What a condition says of a field's value. -/
inductive Comparison where
  | equals
  | notEquals
  | greaterThan
  | lessThan
  | greaterEqual
  | lessEqual
  | contains
  | notContains
  | startsWith
  | endsWith
  | regex
  | isIn
  | notIn
  | exists
  | notExists
deriving Repr, DecidableEq, Inhabited

namespace Comparison

def name : Comparison → String
  | equals => "equals"
  | notEquals => "not_equals"
  | greaterThan => "greater_than"
  | lessThan => "less_than"
  | greaterEqual => "greater_equal"
  | lessEqual => "less_equal"
  | contains => "contains"
  | notContains => "not_contains"
  | startsWith => "starts_with"
  | endsWith => "ends_with"
  | regex => "regex"
  | isIn => "in"
  | notIn => "not_in"
  | «exists» => "exists"
  | notExists => "not_exists"

/-- The comparisons in the order in which they are listed. -/
def all : List Comparison :=
  [equals, notEquals, greaterThan, lessThan, greaterEqual, lessEqual, contains, notContains,
   startsWith, endsWith, regex, isIn, notIn, «exists», notExists]

/-- Does the comparison need a collection to compare with? -/
def needsCollection : Comparison → Bool
  | isIn | notIn => true
  | _ => false

end Comparison

/-- A comparison of the value at a path with a given one. -/
structure Condition where
  field : String
  comparison : Comparison
  comparand : Value := .null

/-- A rule's definition as read. -/
inductive Definition where
  | ifThen (conditions : List Condition) (adjust : Binary64) (reason : Option String)
  | weight (field : String) (weights : PointTable) (reason : Option String)

structure Rule where
  id : String
  teamId : Option String := none
  kind : RuleKind
  enabled : Bool := true
  order : Int := 0
  definition : Value := .null

namespace RuleKind

/-- The kinds in the order in which they are listed. -/
def all : List RuleKind := [ifThen, weight]

end RuleKind

namespace Rule

def toValue (r : Rule) : Value := .rule r.id r.teamId r.kind r.enabled r.order r.definition

end Rule

end Qualify
