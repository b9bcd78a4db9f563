import Qualify.Value

/-!
# Equality of values

Numbers are equal when their exact values are, whatever their types, and truth values count as one
and zero. Collections are equal member by member: lists and tuples in order, mappings by key, sets
in any order. Looking at a value that refuses comparison fails, and so does a signaling decimal
beside a number.
-/

namespace Qualify.Value

/-- Equality of two numbers. -/
def sameNumber (a b : Decimal) : Except Failure Bool :=
  if a.isSignaling || b.isSignaling then .error (.arithmetic .invalidOperation)
  else .ok (a.cmp? b == some .eq)

/-- Equality with a value that holds neither values nor numbers: as data, once neither refuses. -/
def sameAtom (a b : Value) : Except Failure Bool :=
  match a, b with
  | .incomparable t, _ | _, .incomparable t => .error (.incomparable t)
  | .null, .null => .ok true
  | .text s, .text t => .ok (s == t)
  | .bytes s, .bytes t => .ok (s == t)
  | .date d, .date e => .ok (d == e)
  | .timestamp d, .timestamp e => .ok (d == e)
  | .shared n, .shared m => .ok (n == m)
  | .scorecard c, .scorecard d => .ok (decide (c = d))
  | .bands c, .bands d => .ok (decide (c = d))
  | _, _ => .ok false

mutual

/-- Is the first value equal to the second? The recursion is on the second, which shares nothing. -/
def same (cells : Cells) (a b : Value) : Except Failure Bool :=
  match b with
  | .list ys =>
    match cells.deref a with
    | .list xs => if xs.length = ys.length then sameItems cells xs ys else .ok false
    | .incomparable t => .error (.incomparable t)
    | _ => .ok false
  | .tuple ys =>
    match cells.deref a with
    | .tuple xs => if xs.length = ys.length then sameItems cells xs ys else .ok false
    | .incomparable t => .error (.incomparable t)
    | _ => .ok false
  | .set ys | .frozenSet ys =>
    match cells.deref a with
    | .set xs | .frozenSet xs =>
      if xs.length = ys.length then sameMembers cells xs ys else .ok false
    | .incomparable t => .error (.incomparable t)
    | _ => .ok false
  | .map fs =>
    match cells.deref a with
    | .map es =>
      if es.length = fs.length then
        es.foldlM (fun ok e => if ok then sameEntry cells e.1 e.2 fs else .ok false) true
      else .ok false
    | .incomparable t => .error (.incomparable t)
    | _ => .ok false
  | .lead email name company domain fields utm extra =>
    match cells.deref a with
    | .lead email' name' company' domain' fields' utm' extra' => do
      if !(← same cells email' email) then return false
      if !(← same cells name' name) then return false
      if !(← same cells company' company) then return false
      if !(← same cells domain' domain) then return false
      if !(← same cells fields' fields) then return false
      if !(← same cells utm' utm) then return false
      same cells extra' extra
    | .incomparable t => .error (.incomparable t)
    | _ => .ok false
  | .rule id teamId kind enabled order definition =>
    match cells.deref a with
    | .rule id' teamId' kind' enabled' order' definition' =>
      if id' = id ∧ teamId' = teamId ∧ kind' = kind ∧ enabled' = enabled ∧ order' = order then
        same cells definition' definition
      else .ok false
    | .incomparable t => .error (.incomparable t)
    | _ => .ok false
  | b =>
    match (cells.deref a).number?, b.number? with
    | some x, some y => sameNumber x y
    | _, _ => sameAtom (cells.deref a) b
termination_by structural b

/-- Are the items of two lists of one length equal, up to the first that are not? -/
def sameItems (cells : Cells) (xs ys : List Value) : Except Failure Bool :=
  match xs, ys with
  | x :: xs, y :: ys => do
    if ← same cells x y then sameItems cells xs ys else return false
  | _, _ => .ok true
termination_by structural ys

/-- Does each member of the second list equal one of the first? -/
def sameMembers (cells : Cells) (xs ys : List Value) : Except Failure Bool :=
  match ys with
  | [] => .ok true
  | y :: ys =>
    if xs.any (fun x => (same cells x y).toOption.getD false) then sameMembers cells xs ys
    else .ok false
termination_by structural ys

/-- Is the value under this key equal to a given one? -/
def sameEntry (cells : Cells) (key v : Value) (fs : List (Value × Value)) :
    Except Failure Bool :=
  match fs with
  | [] => .ok false
  | (k, w) :: fs =>
    if (same [] key k).toOption.getD false then same cells v w else sameEntry cells key v fs
termination_by structural fs

end

/-- Are two keys of a mapping the same key? -/
def sameKey (k k' : Value) : Bool := (same [] k k').toOption.getD false

/-- The value under a key. -/
def find? (key : Value) (es : List (Value × Value)) : Option Value :=
  (es.find? fun e => sameKey e.1 key).map (·.2)

/-- The entries with the value under a key set; a key that is there keeps its place. -/
def insertEntry (key v : Value) : List (Value × Value) → List (Value × Value)
  | [] => [(key, v)]
  | (k, w) :: es => if sameKey k key then (k, v) :: es else (k, w) :: insertEntry key v es

/-- The entries one after the other, later ones replacing earlier ones with the same key. -/
def mapOf (es : List (Value × Value)) : Value :=
  .map (es.foldl (fun acc e => insertEntry e.1 e.2 acc) [])

/-- The members without repetitions, the first of equal ones kept. -/
def distinct (xs : List Value) : List Value :=
  xs.foldl (fun acc x => if acc.any (sameKey · x) then acc else acc ++ [x]) []

end Qualify.Value
