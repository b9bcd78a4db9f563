import Qualify.Value.Text

/-!
# Checked data

Data from outside are read into records. Reading reports everything that is wrong, each problem
with its place, and yields a record only if nothing is. A record whose fields are fine may still be
refused as a whole.
-/

namespace Qualify

/-- What can be wrong with a piece of data. -/
inductive Complaint where
  | required
  | noNumber
  | unreadableNumber
  | belowZero
  | noInteger
  | unreadableInteger
  | fractionalInteger
  | infiniteInteger
  | longInteger
  | noBoolean
  | unreadableBoolean
  | noText
  | undecodableText
  | emptyText
  | noList
  | emptyList
  | noMapping
  | noRecord (type : String)
  | noChoice (choices : List String)
  | unmatched (pattern : String)
  /-- The value failed to become what is read. -/
  | failed (failure : Failure)
  | descendingThresholds (low medium high : Binary64)
  | listRequired (operator : String)
  | noTeams
  | repeatedRules (team : String) (ids : List String)
  | unknownName (subject : String) (names : List String)
  | unknownFormat
deriving DecidableEq

namespace Complaint

/-- Choices as they are listed in a message. -/
def listed : List String → String
  | [] => ""
  | [a] => a
  | [a, b] => a ++ " or " ++ b
  | a :: rest => a ++ ", " ++ listed rest

/-- Texts in brackets, each in quotes. -/
def quotedList (ss : List String) : String :=
  Value.enclosed "[" "]" (ss.map String.inQuotes)

/-- Why a record is refused as a whole or a value could not be taken over. -/
def refusal : Complaint → Option String
  | failed f => some f.message
  | descendingThresholds low medium high =>
    some ("Band thresholds must ascend low <= medium <= high, got low=" ++ low.text ++ ", medium=" ++
      medium.text ++ ", high=" ++ high.text)
  | listRequired operator => some ("Operator '" ++ operator ++ "' requires a list value")
  | noTeams => some "At least one team must be defined"
  | repeatedRules team ids =>
    some ("Team '" ++ team ++ "' has duplicate rule ids: " ++ quotedList ids)
  | unknownName subject names => some (subject ++ " must be one of: " ++ quotedList names)
  | unknownFormat => some "Log format must be 'json' or 'text'"
  | _ => none

def message (c : Complaint) : String :=
  match c with
  | required => "Field required"
  | noNumber => "Input should be a valid number"
  | unreadableNumber => "Input should be a valid number, unable to parse string as a number"
  | belowZero => "Input should be greater than or equal to 0"
  | noInteger => "Input should be a valid integer"
  | unreadableInteger => "Input should be a valid integer, unable to parse string as an integer"
  | fractionalInteger => "Input should be a valid integer, got a number with a fractional part"
  | infiniteInteger => "Input should be a finite number"
  | longInteger => "Unable to parse input string as an integer, exceeded maximum size"
  | noBoolean => "Input should be a valid boolean"
  | unreadableBoolean => "Input should be a valid boolean, unable to interpret input"
  | noText => "Input should be a valid string"
  | undecodableText => "Input should be a valid string, unable to parse raw data as a unicode string"
  | emptyText => "String should have at least 1 character"
  | noList => "Input should be a valid list"
  | emptyList => "List should have at least 1 item after validation, not 0"
  | noMapping => "Input should be a valid dictionary"
  | noRecord type => "Input should be a valid dictionary or instance of " ++ type
  | noChoice choices => "Input should be " ++ listed (choices.map fun s => "'" ++ s ++ "'")
  | unmatched pattern => "String should match pattern '" ++ pattern ++ "'"
  | c => "Value error, " ++ (refusal c).getD ""

end Complaint

/-- A complaint with the place that it is about, outermost key first. -/
structure Problem where
  place : List String := []
  complaint : Complaint
deriving DecidableEq

namespace Problem

def text (p : Problem) : String :=
  if p.place.isEmpty then p.complaint.message
  else ".".intercalate p.place ++ ": " ++ p.complaint.message

/-- The problem as seen from one level further out. -/
def under (key : String) (p : Problem) : Problem := { p with place := key :: p.place }

end Problem

/-- Data as read: a result, or what is wrong. -/
inductive Checked (α : Type) where
  | valid (a : α)
  | invalid (problems : List Problem)
deriving DecidableEq

namespace Checked

variable {α β : Type}

def map (f : α → β) : Checked α → Checked β
  | valid a => valid (f a)
  | invalid ps => invalid ps

/-- Both results, or the problems of both. -/
def both : Checked α → Checked β → Checked (α × β)
  | valid a, valid b => valid (a, b)
  | valid _, invalid qs => invalid qs
  | invalid ps, valid _ => invalid ps
  | invalid ps, invalid qs => invalid (ps ++ qs)

/-- Readers of the parts of a record side by side: every problem is reported. -/
instance : Applicative Checked where
  pure := valid
  map := map
  seq f a := (f.both (a ())).map fun (f, a) => f a

/-- A check of the whole once all its parts are fine. -/
def andThen (c : Checked α) (f : α → Checked β) : Checked β :=
  match c with
  | valid a => f a
  | invalid ps => invalid ps

def problems : Checked α → List Problem
  | valid _ => []
  | invalid ps => ps

def result? : Checked α → Option α
  | valid a => some a
  | invalid _ => none

/-- A refusal of the data at hand. -/
def refuse (c : Complaint) : Checked α := invalid [⟨[], c⟩]

/-- The problems as seen from one level further out. -/
def under (key : String) : Checked α → Checked α
  | valid a => valid a
  | invalid ps => invalid (ps.map (Problem.under key))

/-- What may fail with a failure, which is a complaint then. -/
def ofExcept : Except Failure α → Checked α
  | .ok a => valid a
  | .error f => refuse (.failed f)

@[simp] theorem map_valid (f : α → β) (a : α) : (valid a).map f = valid (f a) := rfl
@[simp] theorem map_invalid (f : α → β) (ps : List Problem) :
    (invalid ps : Checked α).map f = invalid ps := rfl
@[simp] theorem both_valid (a : α) (b : β) : (valid a).both (valid b) = valid (a, b) := rfl
@[simp] theorem andThen_valid (a : α) (f : α → Checked β) : (valid a).andThen f = f a := rfl
@[simp] theorem under_valid (key : String) (a : α) : (valid a).under key = valid a := rfl

end Checked

end Qualify
