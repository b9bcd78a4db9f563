import Qualify.Check.Scalar
import Qualify.Text.Case
import Qualify.Text.Numeral
import Qualify.Value.Same
import Qualify.Yaml.Node.Reader
import Qualify.Yaml.Staged

/-!
# Data in YAML

The value that a node denotes by its tag. Keys of mappings have to be scalars or dates; of equal keys
the last entry counts, in the first one's place. Entries that a mapping takes over from others come
first among its own. A tag that is not known denotes nothing. What a collection holds is built after
everything beside the collection.
-/

namespace Qualify.Yaml

namespace Fault

/-- What is wrong with a text as it is read. -/
def lift {α : Type} : Except Failure α → Except Fault α
  | .ok a => .ok a
  | .error f => .error (.failed f)

/-- The kind of what goes wrong apart from the format. -/
def kind : Fault → String
  | malformed => "YAMLError"
  | noCharacter code => if code < twoTo 31 then "ValueError" else "OverflowError"
  | noTruthValue _ => "KeyError"
  | noDate => "AttributeError"
  | noDateText => "TypeError"
  | farPlace => "OverflowError"
  | failed f => f.kind

def message : Fault → String
  | malformed => "not valid YAML"
  | noCharacter code =>
    if code < twoTo 31 then "chr() arg not in range(0x110000)"
    else "int too large to convert to C int"
  | noTruthValue quoted => quoted
  | noDate => "'NoneType' object has no attribute 'groupdict'"
  | noDateText => "expected string or bytes-like object, got 'list'"
  | farPlace => "int too large to convert to float"
  | failed f => f.message

end Fault

/-! ## Scalars -/

def truthWords : List (String × Bool) :=
  [("yes", true), ("no", false), ("true", true), ("false", false), ("on", true), ("off", false)]

def truthValue (s : String) : Except Fault Value :=
  match truthWords.lookup s.lowerCase with
  | some b => .ok (.bool b)
  | none => .error (.noTruthValue s.lowerCase.inQuotes)

/-- Parts to the base of sixty, most significant first, as one number. -/
def ofSixties (parts : List Int) : Int := parts.foldl (fun n d => 60 * n + d) 0

/-- The sign of a numeral without underscores, and the rest, which must not be empty. -/
def signed (cs : List Char) : Except Fault (Bool × List Char) :=
  let cs := cs.filter (· ≠ '_')
  match cs with
  | [] => .error (.failed .emptyText)
  | c :: rest =>
    let rest := if c = '-' ∨ c = '+' then rest else c :: rest
    .ok (c = '-', rest)

/-- An integer: binary, octal, hexadecimal, to the base of sixty or decimal. -/
def integer (s : String) : Except Fault Value := do
  let (negative, cs) ← signed s.toList
  let read (base : Nat) (cs : List Char) : Except Fault Int := Fault.lift (Text.integerIn base cs)
  let n ← match cs with
    | [] => .error (.failed .emptyText)
    | ['0'] => .ok 0
    | '0' :: 'b' :: rest => read 2 rest
    | '0' :: 'x' :: rest => read 16 rest
    | '0' :: _ => read 8 cs
    | _ =>
      if cs.contains ':' then ofSixties <$> (Text.splitOn ':' cs).mapM (read 10)
      else read 10 cs
  return .int (if negative then -n else n)

/-- An unsigned number without underscores in lower case. -/
def fraction (cs : List Char) : Except Fault Binary64 :=
  match Check.numeral? (Text.trim cs) with
  | some x => .ok x
  | none => .error (.failed (.noNumber (String.ofList cs).inQuotes))

/-- Parts to the base of sixty, least significant first, added up in turn. -/
def addSixties : (place : Nat) → Binary64 → List Binary64 → Except Fault Binary64
  | _, sum, [] => .ok sum
  | place, sum, x :: xs =>
    match Binary64.ofInt? place with
    | some p => addSixties (60 * place) (sum.add (x.mul p)) xs
    | none => .error .farPlace

def number (s : String) : Except Fault Value := do
  let (negative, cs) ← signed s.lowerCase.toList
  let x ←
    if cs = ".inf".toList then pure (.infinite false)
    else if cs = ".nan".toList then pure .nan
    else if cs.contains ':' then do
      let parts ← (Text.splitOn ':' cs).mapM fraction
      addSixties 1 .zero parts.reverse
    else fraction cs
  return .float (if negative then x.neg else x)

/-- A date, with a time of day and an offset if they are given. A line break may stand behind it. -/
def date (s : String) : Except Fault Value := do
  let cs := s.toList
  match Tag.dateParts? (if cs.getLast? = some '\n' then cs.dropLast else cs) with
  | none => .error .noDate
  | some p =>
    let n (cs : List Char) : Nat := Text.numberOfDigits (cs.map fun c => c.toNat - '0'.toNat)
    let d : Date := { year := n p.year, month := n p.month, day := n p.day }
    match p.time with
    | none =>
      match d.fault? with
      | some f => .error (.failed (.calendar f))
      | none => return .date d
    | some (hour, minute, second, places) =>
      let places := places.take 6
      let offset : Option Int := p.zone.map fun z =>
        match z with
        | none => 0
        | some (sign, hours, minutes) =>
          let seconds : Int := (n hours * 60 + n minutes) * 60
          if sign = '-' then -seconds else seconds
      let t : Timestamp :=
        { date := d, hour := n hour, minute := n minute, second := n second
          microsecond := n places * tenTo (6 - places.length), offset }
      match t.fault? with
      | some f => .error (.failed (.calendar f))
      | none => return .timestamp t

/-- The number of six bits that a character stands for. -/
def sixBits? (c : Char) : Option Nat :=
  if 'A' ≤ c ∧ c ≤ 'Z' then some (c.toNat - 65)
  else if 'a' ≤ c ∧ c ≤ 'z' then some (c.toNat - 71)
  else if c.isDigit then some (c.toNat + 4)
  else if c = '+' then some 62
  else if c = '/' then some 63
  else none

/-- The numbers of six bits in a text up to where padding completes a group of four. Characters that
stand for nothing do not matter. -/
def sixBitRow : (inGroup padding : Nat) → List Char → Option (List Nat)
  | inGroup, _, [] => if inGroup = 0 then some [] else none
  | inGroup, padding, c :: cs =>
    if c = '=' then
      if 2 ≤ inGroup ∧ 4 ≤ inGroup + padding + 1 then some [] else sixBitRow inGroup (padding + 1) cs
    else match sixBits? c with
      | none => sixBitRow inGroup padding cs
      | some n => (sixBitRow ((inGroup + 1) % 4) 0 cs).map (n :: ·)

/-- Bytes from numbers of six bits, four of which make three bytes. -/
def bytesOf : List Nat → List UInt8
  | a :: b :: c :: d :: rest =>
    UInt8.ofNat (a * 4 + b / 16) :: UInt8.ofNat (b % 16 * 16 + c / 4) ::
      UInt8.ofNat (c % 4 * 64 + d) :: bytesOf rest
  | [a, b, c] => [UInt8.ofNat (a * 4 + b / 16), UInt8.ofNat (b % 16 * 16 + c / 4)]
  | [a, b] => [UInt8.ofNat (a * 4 + b / 16)]
  | _ => []

def binary (s : String) : Except Fault Value :=
  let cs := s.toList
  if cs.any fun c => 0x7F < c.toNat then .error .malformed
  else match sixBitRow 0 0 cs with
    | none => .error .malformed
    | some row => .ok (.bytes (bytesOf row))

/-- The value of a scalar by its tag. -/
def scalarValue (tag : Tag) (s : String) : Except Fault Value :=
  match tag with
  | .null => .ok .null
  | .bool => truthValue s
  | .int => integer s
  | .float => number s
  | .binary => binary s
  | .timestamp => date s
  | .text => .ok (.text s)
  | _ => .error .malformed

/-! ## Nodes -/

/-- May the value be a key? -/
def isKey : Value → Bool
  | .list _ | .map _ | .set _ | .shared _ => false
  | _ => true

/-- Is a mapping with this tag one of pairs? -/
def isPairs (tag : Tag) : Bool := tag = .omap || tag = .pairs

/-- Is what has this tag a collection? -/
def isCollection (tag : Tag) : Bool :=
  tag = .sequence || tag = .mapping || tag = .set || isPairs tag

/-- What is malformed where something else than a collection is built. -/
def malformedAs (tag : Tag) : Staged Value :=
  if isCollection tag then .later (.fail .malformed) else .fail .malformed

/-- The value of a mapping that is no collection by its tag, but stands for its default. -/
def defaultValue (tag : Tag) (text : Option String) : Staged Value :=
  match text with
  | none => .fail .malformed
  | some s => if tag = .timestamp then .fail .noDateText else .ofExcept (scalarValue tag s)

/-- A key of a mapping. -/
def asKey (k : Staged Value) : Staged Value := do
  let v ← k
  if !isKey v then .fail .malformed else return v

/-- The key of a default is a text as any other. -/
def defaultKey (text : Option String) : Staged Value :=
  match text with
  | some s => pure (.text s)
  | none => .fail .malformed

/-- The entries of a mapping: those that it takes over from others, and its own. -/
structure Entries where
  taken : Staged (List (Value × Value)) := pure []
  own : Staged (List (Value × Value)) := pure []

/-- All entries, those that are taken over first. -/
def Entries.all (es : Entries) : Staged (List (Value × Value)) :=
  return (← es.taken) ++ (← es.own)

/-- All entries, if what is taken over is there to be taken. -/
def entriesOr (es : Option Entries) : Staged (List (Value × Value)) :=
  match es with
  | some es => es.all
  | none => .fail .malformed

mutual

/-- The value that a node denotes. A reference to a node around it is the first cell. -/
def build (n : Node) : Staged Value :=
  match n with
  | .scalar tag s => if isCollection tag then malformedAs tag else .ofExcept (scalarValue tag s)
  | .sequence tag items =>
    if tag = .sequence then .later (Value.list <$> buildAll items)
    else if isPairs tag then .later (Value.list <$> buildPairs items)
    else malformedAs tag
  | .mapping tag es =>
    if tag = .mapping then .later (Value.mapOf <$> entriesOr (entries es))
    else if tag = .set then
      .later ((fun es => .set (Value.distinct (es.map (·.1)))) <$> entriesOr (entries es))
    else if isCollection tag then malformedAs tag
    else defaultValue tag (Node.defaultText? es)
  | .recursive => pure (.shared 0)
termination_by structural n

def buildAll (ns : List Node) : Staged (List Value) :=
  match ns with
  | [] => pure []
  | n :: ns => do return (← build n) :: (← buildAll ns)
termination_by structural ns

/-- Pairs from mappings with one entry each. -/
def buildPairs (ns : List Node) : Staged (List Value) :=
  match ns with
  | [] => pure []
  | .mapping _ [(k, v)] :: ns => do
    let k ← build k
    let v ← build v
    return .tuple [k, v] :: (← buildPairs ns)
  | _ :: _ => .fail .malformed
termination_by structural ns

/-- The entries of a mapping, none if a merge key is there without entries to take over. -/
def entries (es : List (Node × Node)) : Option Entries :=
  match es with
  | [] => some {}
  | (k, v) :: es =>
    if k.tag = some .merge then do
      let here ← taken v
      let others ← entries es
      return { others with taken := return (← here) ++ (← others.taken) }
    else do
      let key := asKey (if k.tag = some .value then defaultKey k.text? else build k)
      let others ← entries es
      return { others with own := do
        let k ← key
        let v ← build v
        return (k, v) :: (← others.own) }
termination_by structural es

/-- The entries that a mapping takes over from the value of a merge key: those of a mapping, or those
of the mappings in a sequence. A node around the mapping gives nothing. -/
def taken (n : Node) : Option (Staged (List (Value × Value))) :=
  match n with
  | .mapping _ es => Entries.all <$> entries es
  | .sequence _ items => takenAll items
  | .recursive => some (pure [])
  | .scalar .. => none
termination_by structural n

/-- The entries of some mappings, the last one's first. -/
def takenAll (ns : List Node) : Option (Staged (List (Value × Value))) :=
  match ns with
  | [] => some (pure [])
  | .mapping _ es :: ns => do
    let here ← entries es
    let others ← takenAll ns
    return do return (← others) ++ (← here.all)
  | .recursive :: ns => takenAll ns
  | _ :: _ => none
termination_by structural ns

end

/-- The data in a text, null if there is nothing. -/
def read (text : String) : Except Fault Value := do
  let cs := text.toList
  if !cs.all isAllowed then .error .malformed
  match ← nodeOf cs with
  | none => return .null
  | some n => (build n).outcome

end Qualify.Yaml
