import Qualify.Yaml.Tag
import Qualify.Yaml.Token

/-!
# YAML nodes

What a text denotes: scalars, sequences and mappings with their tags. A node that is referred to
stands wherever a reference does, except inside itself.
-/

namespace Qualify.Yaml

inductive Node where
  | scalar (tag : Tag) (text : String)
  | sequence (tag : Tag) (items : List Node)
  | mapping (tag : Tag) (entries : List (Node × Node))
  /-- A reference to a node around it. -/
  | recursive
deriving Inhabited

namespace Node

def tag : Node → Option Tag
  | scalar t _ | sequence t _ | mapping t _ => some t
  | recursive => none

def empty : Node := scalar .null ""

mutual

/-- What a node has as a text: a scalar its own, a mapping that of its default. -/
def text? (n : Node) : Option String :=
  match n with
  | .scalar _ s => some s
  | .mapping _ es => defaultText? es
  | .sequence .. | .recursive => none
termination_by structural n

/-- The text of the first entry whose key is that of a default. -/
def defaultText? (es : List (Node × Node)) : Option String :=
  match es with
  | [] => none
  | (k, v) :: es => if k.tag = some .value then v.text? else defaultText? es
termination_by structural es

end

end Node

end Qualify.Yaml
