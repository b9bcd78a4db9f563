import Qualify.Check.Scalar
import Qualify.Value.Same

/-!
# Reading records, lists and tables

A record is read from a mapping field by field. A field may have two keys; the first one counts if
both are there, and problems name the key that the value was found under. Keys that no field has do
not matter.
-/

namespace Qualify.Check

variable {α : Type}

/-- The entries of a mapping. -/
abbrev Entries := List (Value × Value)

/-- The entries that a record is read from. -/
def record (type : String) (v : Value) : Checked Entries :=
  match v with
  | .map es => .valid es
  | _ => .refuse (.noRecord type)

/-- The value of a field with the key that it was found under. -/
def find? (es : Entries) : List String → Option (String × Value)
  | [] => none
  | key :: keys =>
    match Value.lookup key es with
    | some v => some (key, v)
    | none => find? es keys

/-- A field that has to be there. -/
def required (keys : List String) (read : Value → Checked α) (es : Entries) : Checked α :=
  match find? es keys with
  | some (key, v) => (read v).under key
  | none => (Checked.refuse .required).under (keys.headD "")

/-- A field that stands for a given result where it is missing. -/
def optional (keys : List String) (default : α) (read : Value → Checked α) (es : Entries) :
    Checked α :=
  match find? es keys with
  | some (key, v) => (read v).under key
  | none => .valid default

/-- A value that may be null. -/
def nullable (read : Value → Checked α) (v : Value) : Checked (Option α) :=
  if v.isNull then .valid none else (read v).map some

/-- The items of a list, tuple or set. -/
def items (v : Value) : Checked (List Value) :=
  match v.members? with
  | some xs => .valid xs
  | none => .refuse .noList

/-- Items one by one, numbered from a given number on. -/
def eachFrom (read : Value → Checked α) : Nat → List Value → Checked (List α)
  | _, [] => .valid []
  | n, x :: xs => List.cons <$> (read x).under (toString n) <*> eachFrom read (n + 1) xs

/-- A list item by item. -/
def listOf (read : Value → Checked α) (v : Value) : Checked (List α) :=
  (items v).andThen (eachFrom read 0)

/-- A list item by item, with at least one of them. -/
def nonemptyListOf (read : Value → Checked α) (v : Value) : Checked (List α) :=
  (listOf read v).andThen fun xs => if xs.isEmpty then .refuse .emptyList else .valid xs

/-- A key as it is named in a place. -/
def keyText : Value → String
  | .text s => s
  | .bool b => if b then "1" else "0"
  | v =>
    match v.quoted with
    | .ok s => s
    | .error _ => "<unprintable " ++ v.typeName ++ " object>"

/-- The entries of a table with texts as keys. -/
def tableEntries (read : Value → Checked α) : Entries → Checked (List (String × α))
  | [] => .valid []
  | (k, v) :: es =>
    let entry := Prod.mk <$> ((text k).under "[key]").under (keyText k) <*> (read v).under (keyText k)
    List.cons <$> entry <*> tableEntries read es

/-- A table with texts as keys. -/
def tableOf (read : Value → Checked α) (v : Value) : Checked (List (String × α)) :=
  match v with
  | .map es => tableEntries read es
  | _ => .refuse .noMapping

/-- The texts of the keys in place of the keys; of keys with one text the last entry counts. -/
def withTextKeys : Entries → Except Failure Entries
  | [] => .ok []
  | es => do
    let es ← es.mapM fun e => return (← e.1.toText, e.2)
    return es.foldl (fun acc e => Value.withEntry e.1 e.2 acc) []

end Qualify.Check
