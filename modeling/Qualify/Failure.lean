import Qualify.Number.Decimal
import Qualify.Calendar

/-!
# Failures of an evaluation

What can go wrong while values are computed with, by cause, with the kind and the wording under
which a failure is reported.
-/

namespace Qualify

inductive Failure where
  | arithmetic (fault : ArithmeticFault)
  /-- An integer has too many digits to be written. -/
  | longInteger
  /-- A numeral has too many digits to be read. -/
  | longNumeral (digits : Nat)
  /-- A text, given in quotes, is no integer in a base. -/
  | noInteger (base : Nat) (quoted : String)
  /-- A text, given in quotes, is no number. -/
  | noNumber (quoted : String)
  | calendar (fault : CalendarFault)
  /-- A value refuses to be compared. -/
  | incomparable (text : String)
  /-- A count in a pattern is past the largest one. -/
  | repetition
  /-- A pattern asks for two alphabets at once. -/
  | incompatibleFlags
  /-- The first character of an empty text was asked for. -/
  | emptyText
  /-- A value of this type is no collection. -/
  | notIterable (type : String)
  /-- A value, given in quotes, names no band. -/
  | noBand (quoted : String)
deriving Repr, DecidableEq, Inhabited

/-- The most digits that an integer may have in text. -/
def digitLimit : Nat := 4300

def CalendarFault.message : CalendarFault → String
  | .year n => s!"year {n} is out of range"
  | .month => "month must be in 1..12"
  | .day => "day is out of range for month"
  | .hour => "hour must be in 0..23"
  | .minute => "minute must be in 0..59"
  | .second => "second must be in 0..59"
  | .offset negative seconds =>
    let days : Int := if negative then -((seconds + 86399) / 86400 : Nat) else seconds / 86400
    let rest : Int := (if negative then -(seconds : Int) else seconds) - days * 86400
    let parts := if rest = 0 then s!"days={days}" else s!"days={days}, seconds={rest}"
    "offset must be a timedelta strictly between -timedelta(hours=24) and timedelta(hours=24), not "
      ++ "datetime.timedelta(" ++ parts ++ ")"

namespace Failure

/-- The kind under which a failure is counted and reported. -/
def kind : Failure → String
  | .arithmetic .nanToInteger | .longInteger | .longNumeral _ | .noInteger .. | .noNumber _
  | .calendar _ | .noBand _ | .incompatibleFlags => "ValueError"
  | .arithmetic .overflow => "Overflow"
  | .arithmetic _ => "InvalidOperation"
  | .incomparable _ => "RuntimeError"
  | .repetition => "OverflowError"
  | .emptyText => "IndexError"
  | .notIterable _ => "TypeError"

def limitText (what : String) : String :=
  s!"Exceeds the limit ({digitLimit} digits) for integer string conversion{what}; " ++
    "use sys.set_int_max_str_digits() to increase the limit"

def message : Failure → String
  | .arithmetic .conversionSyntax => "[<class 'decimal.ConversionSyntax'>]"
  | .arithmetic .invalidOperation => "[<class 'decimal.InvalidOperation'>]"
  | .arithmetic .overflow => "[<class 'decimal.Overflow'>]"
  | .arithmetic .nanToInteger => "cannot convert NaN to integer"
  | .longInteger => limitText ""
  | .longNumeral n => limitText s!": value has {n} digits"
  | .noInteger base quoted => s!"invalid literal for int() with base {base}: {quoted}"
  | .noNumber quoted => s!"could not convert string to float: {quoted}"
  | .calendar f => f.message
  | .incomparable text => text
  | .repetition => "the repetition number is too large"
  | .incompatibleFlags => "ASCII and UNICODE flags are incompatible"
  | .emptyText => "string index out of range"
  | .notIterable type => s!"'{type}' object is not iterable"
  | .noBand quoted => s!"{quoted} is not a valid Band"

end Failure

/-- Arithmetic as part of an evaluation. -/
def ArithmeticFault.lift {α : Type} : Except ArithmeticFault α → Except Failure α
  | .ok a => .ok a
  | .error f => .error (.arithmetic f)

/-- The decimal text of an integer, unless that is too long. -/
def integerText (n : Int) : Except Failure String :=
  if n.natAbs < tenTo digitLimit then .ok (toString n) else .error .longInteger

end Qualify
