import Qualify.Path
import Qualify.Value.Same

/-!
# Leads

A lead has an email, a name, a company and a domain, which may be anything, two mappings of free
fields and campaign parameters, and whatever else came with it. Any mapping can be read as a lead.
-/

namespace Qualify

structure Lead where
  email : Value := .null
  name : Value := .null
  company : Value := .null
  domain : Value := .null
  fields : Value := .map []
  utm : Value := .map []
  extra : List (Value × Value) := []
  /-- What the attributes share. -/
  cells : Cells := []
deriving Inhabited

namespace Lead

/-- The keys that are not further entries. -/
def ownKeys : List String := ["email", "name", "company", "domain", "fields", "utm", "utmParams"]

def isOwnKey : Value → Bool
  | .text k => ownKeys.contains k
  | _ => false

/-- The value if it is a mapping, else the empty one. -/
def mappingOrEmpty (cells : Cells) (v : Option Value) : Value :=
  match v with
  | some v => if (cells.deref v).isMap then cells.deref v else .map []
  | none => .map []

/-- The lead in a mapping. Parameters may stand under either of two keys. -/
def ofEntries (cells : Cells) (es : List (Value × Value)) : Lead where
  email := cells.deref ((Value.lookup "email" es).getD .null)
  name := cells.deref ((Value.lookup "name" es).getD .null)
  company := cells.deref ((Value.lookup "company" es).getD .null)
  domain := cells.deref ((Value.lookup "domain" es).getD .null)
  fields := mappingOrEmpty cells (Value.lookup "fields" es)
  utm := mappingOrEmpty cells ((Value.lookup "utm" es).or (Value.lookup "utmParams" es))
  extra := es.filter fun e => !isOwnKey e.1
  cells := cells

/-- The lead that a value is or holds: a lead itself, or any mapping. -/
def ofValue? (cells : Cells) (v : Value) : Option Lead :=
  match cells.deref v with
  | .lead email name company domain fields utm extra =>
    some { email, name, company, domain, fields, utm, extra := extra.entries?.getD [], cells }
  | .map es => some (ofEntries cells es)
  | _ => none

/-- The lead as a value. -/
def toValue (l : Lead) : Value :=
  .lead l.email l.name l.company l.domain l.fields l.utm (.map l.extra)

/-- The mapping that paths start from. -/
def root (l : Lead) : Value := l.toValue.attributes

/-- The value at a path. -/
def resolve (l : Lead) (path : String) : Except Failure Value := l.root.resolve l.cells path

/-- The first filled value along the paths, or null. -/
def firstFilled (l : Lead) (paths : List String) : Except Failure Value :=
  l.root.firstFilled l.cells paths

end Lead

end Qualify
