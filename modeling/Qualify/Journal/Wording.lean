import Qualify.Number.Fixed
import Qualify.Value.Text

/-!
# Wordings

The wording of a journal entry may hold directives, each of which stands for an argument: a percent
sign, flags, a width, a precision and a letter for the kind of text. A directive may name its
argument where the arguments are a mapping.
-/

namespace Qualify

/-- Why a wording has no text. -/
inductive WordingFault where
  | tooFew
  | tooMany
  | incomplete
  | unsupported (letter : Char) (place : Nat)
  | noMapping
  | missing (quotedKey : String)
  /-- A directive with this letter takes no argument of this type. -/
  | noNumber (letter : Char) (type : String)
  | noFraction (type : String)
  | noInteger (letter : Char) (type : String)
  | noCharacter
  | characterRange
  | nanInteger
  | infiniteInteger
  | value (failure : Failure)

namespace WordingFault

def kind : WordingFault → String
  | incomplete | unsupported .. | nanInteger => "ValueError"
  | missing _ => "KeyError"
  | infiniteInteger | characterRange => "OverflowError"
  | value f => f.kind
  | _ => "TypeError"

/-- The least hexadecimal numeral of a character. -/
def codeText (c : Char) : String := String.ofList (Nat.toDigits 16 c.toNat)

def message : WordingFault → String
  | tooFew => "not enough arguments for format string"
  | tooMany => "not all arguments converted during string formatting"
  | incomplete => "incomplete format"
  | unsupported c n =>
    s!"unsupported format character '{c}' (0x" ++ codeText c ++ s!") at index {n}"
  | noMapping => "format requires a mapping"
  | missing quotedKey => quotedKey
  | noNumber c type => s!"%{c} format: a real number is required, not {type}"
  | noFraction type => s!"must be real number, not {type}"
  | noInteger c type => s!"%{c} format: an integer is required, not {type}"
  | noCharacter => "%c requires int or char"
  | characterRange => "%c arg not in range(0x110000)"
  | nanInteger => "cannot convert float NaN to integer"
  | infiniteInteger => "cannot convert float infinity to integer"
  | value f => f.message

end WordingFault

namespace Wording

/-- How an argument is to be written. -/
structure Directive where
  key : Option String := none
  leftAligned : Bool := false
  signed : Bool := false
  spaced : Bool := false
  zeros : Bool := false
  alternate : Bool := false
  width : Nat := 0
  precision : Option Nat := none
  letter : Char

/-- The text of a number: its sign, a mark of its base and its digits. -/
structure Numeral where
  negative : Bool
  mark : List Char := []
  digits : List Char

/-- The argument's text in a field of the directive's width. -/
def Directive.pad (d : Directive) (cs : List Char) : List Char :=
  let blanks := List.replicate (d.width - cs.length) ' '
  if d.leftAligned then cs ++ blanks else blanks ++ cs

/-- A numeral in a field of the directive's width. -/
def Directive.padNumeral (d : Directive) (n : Numeral) : List Char :=
  let sign := if n.negative then ['-'] else if d.signed then ['+'] else if d.spaced then [' '] else []
  let front := sign ++ n.mark
  if d.zeros && !d.leftAligned then
    front ++ List.replicate (d.width - front.length - n.digits.length) '0' ++ n.digits
  else d.pad (front ++ n.digits)

/-- The integer that an argument stands for in a directive for whole numbers. -/
def integerOf (letter : Char) : Value → Except WordingFault Int
  | .int n => .ok n
  | .bool b => .ok (if b then 1 else 0)
  | .float .nan => .error .nanInteger
  | .float (.infinite _) => .error .infiniteInteger
  | .float (.finite s m e) =>
    let (num, den) := Binary64.scaledRatio m e
    .ok (if s then -(num / den : Nat) else (num / den : Nat))
  | v => .error (.noNumber letter v.qualifiedTypeName)

/-- The integer that an argument is. -/
def exactInteger (letter : Char) : Value → Except WordingFault Int
  | .int n => .ok n
  | .bool b => .ok (if b then 1 else 0)
  | v => .error (.noInteger letter v.qualifiedTypeName)

/-- Digits with zeros in front up to the least number of them. -/
def withLeast (least : Option Nat) (ds : List Char) : List Char :=
  List.replicate (least.getD 0 - ds.length) '0' ++ ds

def integerNumeral (d : Directive) (base : Nat) (mark : List Char) (n : Int) : Numeral where
  negative := n < 0
  mark := if d.alternate then mark else []
  digits :=
    let ds := withLeast d.precision (Nat.toDigits base n.natAbs)
    if d.letter = 'X' then ds.map Char.toUpper else ds

/-- The number that an argument stands for in a directive for fractions. -/
def fractionOf : Value → Except WordingFault Binary64
  | .int n => .ok (.ofInt n)
  | .bool b => .ok (.ofInt (if b then 1 else 0))
  | .float x => .ok x
  | .decimal d => .ok (.ofDecimal d)
  | v => .error (.noFraction v.qualifiedTypeName)

def fractionNumeral (d : Directive) (x : Binary64) : Numeral :=
  match x with
  | .nan => ⟨false, [], "nan".toList⟩
  | .infinite s => ⟨s, [], "inf".toList⟩
  | .finite s m e => ⟨s, [], Fixed.digits m e (d.precision.getD 6)⟩

def character : Value → Except WordingFault (List Char)
  | .int n =>
    if 0 ≤ n ∧ n < 0x110000 then .ok [Char.ofNat n.toNat] else .error .characterRange
  | .text s => if s.length = 1 then .ok s.toList else .error .noCharacter
  | _ => .error .noCharacter

def ofValue (r : Except Failure String) : Except WordingFault (List Char) :=
  match r with
  | .ok s => .ok s.toList
  | .error f => .error (.value f)

/-- The text of an argument, cut off at the precision. -/
def Directive.cut (d : Directive) (cs : List Char) : List Char :=
  match d.precision with
  | some n => cs.take n
  | none => cs

/-- An argument as a directive writes it; what is unsupported is told with its place. -/
def Directive.write (d : Directive) (place : Nat) (v : Value) : Except WordingFault (List Char) := do
  match d.letter with
  | 's' => return d.pad (d.cut (← ofValue v.toText))
  | 'r' | 'a' => return d.pad (d.cut (← ofValue v.quoted))
  | 'd' | 'i' | 'u' => return d.padNumeral (integerNumeral d 10 [] (← integerOf d.letter v))
  | 'x' | 'X' =>
    return d.padNumeral (integerNumeral d 16 ['0', d.letter] (← exactInteger d.letter v))
  | 'o' => return d.padNumeral (integerNumeral d 8 ['0', 'o'] (← exactInteger d.letter v))
  | 'f' | 'F' => return d.padNumeral (fractionNumeral d (← fractionOf v))
  | 'c' => return d.pad (← character v)
  | c => .error (.unsupported c place)

/-! ## Reading directives -/

/-- A name in round brackets, which may hold further brackets. -/
def keyEnd : (depth : Nat) → List Char → Option (List Char × List Char)
  | _, [] => none
  | depth, c :: cs =>
    if c = ')' then
      match depth with
      | 0 => some ([], cs)
      | depth + 1 => (keyEnd depth cs).map fun (k, r) => (c :: k, r)
    else (keyEnd (if c = '(' then depth + 1 else depth) cs).map fun (k, r) => (c :: k, r)

def withFlag (d : Directive) (c : Char) : Option Directive :=
  match c with
  | '-' => some { d with leftAligned := true }
  | '+' => some { d with signed := true }
  | ' ' => some { d with spaced := true }
  | '0' => some { d with zeros := true }
  | '#' => some { d with alternate := true }
  | _ => none

def flags (d : Directive) : List Char → Directive × List Char
  | [] => (d, [])
  | c :: cs =>
    match withFlag d c with
    | some d => flags d cs
    | none => (d, c :: cs)

/-- A directive behind its percent sign. -/
def directive (cs : List Char) : Except WordingFault (Directive × List Char) := do
  let (key, cs) ← match cs with
    | '(' :: rest =>
      match keyEnd 0 rest with
      | some (k, rest) => pure (some (String.ofList k), rest)
      | none => .error .incomplete
    | cs => pure (none, cs)
  let (d, cs) := flags { key, letter := 's' } cs
  let (width, cs) := Decimal.takeDigits cs
  let (precision, cs) := match cs with
    | '.' :: rest =>
      let (p, rest) := Decimal.takeDigits rest
      (some (Text.numberOfDigits p), rest)
    | cs => (none, cs)
  let cs := match cs with
    | c :: rest => if c = 'h' ∨ c = 'l' ∨ c = 'L' then rest else c :: rest
    | [] => []
  match cs with
  | [] => .error .incomplete
  | letter :: rest => return ({ d with width := Text.numberOfDigits width, precision, letter }, rest)

/-! ## Filling in arguments -/

/-- The arguments of a wording. -/
inductive Arguments where
  /-- Arguments in order, as many as there are directives. -/
  | row (vs : List Value)
  /-- One mapping, whose entries may be named. -/
  | table (v : Value)

/-- The argument of a directive, with the arguments for the others. -/
def Arguments.next (args : Arguments) (d : Directive) : Except WordingFault (Value × Arguments) :=
  match d.key, args with
  | some _, .row _ => .error .noMapping
  | some k, .table v =>
    match v.get? k with
    | some x => .ok (x, .table v)
    | none => .error (.missing k.inQuotes)
  | none, .table v => .ok (v, .table v)
  | none, .row [] => .error .tooFew
  | none, .row (v :: vs) => .ok (v, .row vs)

/-- A wording from some place on with its directives filled in. -/
def fillFrom : (fuel place : Nat) → Arguments → List Char → Except WordingFault (List Char)
  | 0, _, _, _ => .ok []
  | _ + 1, _, .row (_ :: _), [] => .error .tooMany
  | _ + 1, _, _, [] => .ok []
  | fuel + 1, place, args, '%' :: cs => do
    let (d, rest) ← directive cs
    let next := place + 1 + (cs.length - rest.length)
    if d.letter = '%' then return '%' :: (← fillFrom fuel next args rest)
    else
      let (v, args) ← args.next d
      let written ← d.write (next - 1) v
      return written ++ (← fillFrom fuel next args rest)
  | fuel + 1, place, args, c :: cs => return c :: (← fillFrom fuel (place + 1) args cs)

end Wording

/-- A wording with its directives filled in. Without arguments nothing in it is a directive. -/
def Wording.fill (wording : String) (args : List Value) : Except WordingFault String :=
  let cs := wording.toList
  match args with
  | [] => .ok wording
  | [.map (e :: es)] =>
    String.ofList <$> fillFrom (cs.length + 1) 0 (.table (.map (e :: es))) cs
  | vs => String.ofList <$> fillFrom (cs.length + 1) 0 (.row vs) cs

end Qualify
