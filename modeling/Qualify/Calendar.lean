/-!
# Dates and times of day

Calendar dates of the years 1 to 9999, alone or with a time of day and an offset from universal
time.
-/

namespace Qualify

structure Date where
  year : Nat
  month : Nat
  day : Nat
deriving Repr, DecidableEq, Inhabited

/-- A date with a time of day; the offset is in seconds. -/
structure Timestamp where
  date : Date
  hour : Nat
  minute : Nat
  second : Nat
  microsecond : Nat
  offset : Option Int
deriving Repr, DecidableEq, Inhabited

/-- The part of a date or time that is out of range. -/
inductive CalendarFault where
  | year (n : Nat)
  | month
  | day
  | hour
  | minute
  | second
  | offset (negative : Bool) (seconds : Nat)
deriving Repr, DecidableEq, Inhabited

/-- A number with at least `width` digits. -/
def padded (width n : Nat) : String :=
  let s := toString n
  String.ofList (List.replicate (width - s.length) '0') ++ s

namespace Date

def isLeap (year : Nat) : Bool := year % 4 == 0 && (year % 100 != 0 || year % 400 == 0)

def daysIn (year month : Nat) : Nat :=
  match month with
  | 2 => if isLeap year then 29 else 28
  | 4 | 6 | 9 | 11 => 30
  | _ => 31

/-- The first part that is out of range. -/
def fault? (d : Date) : Option CalendarFault :=
  if d.year < 1 ∨ 9999 < d.year then some (.year d.year)
  else if d.month < 1 ∨ 12 < d.month then some .month
  else if d.day < 1 ∨ daysIn d.year d.month < d.day then some .day
  else none

def text (d : Date) : String := s!"{padded 4 d.year}-{padded 2 d.month}-{padded 2 d.day}"

def quoted (d : Date) : String := s!"datetime.date({d.year}, {d.month}, {d.day})"

end Date

namespace Timestamp

/-- The first part that is out of range. -/
def fault? (t : Timestamp) : Option CalendarFault :=
  match t.offset with
  | some o =>
    if 86400 ≤ o.natAbs then some (.offset (o < 0) o.natAbs)
    else rest
  | none => rest
where
  rest : Option CalendarFault :=
    match t.date.fault? with
    | some f => some f
    | none =>
      if 23 < t.hour then some .hour
      else if 59 < t.minute then some .minute
      else if 59 < t.second then some .second
      else none

/-- An offset as a sign, hours and minutes, and seconds if there are any. -/
def offsetText (seconds : Int) : String :=
  let n := seconds.natAbs
  let tail := if n % 60 = 0 then "" else ":" ++ padded 2 (n % 60)
  (if seconds < 0 then "-" else "+") ++ padded 2 (n / 3600) ++ ":" ++ padded 2 (n / 60 % 60) ++ tail

def text (t : Timestamp) : String :=
  let fraction := if t.microsecond = 0 then "" else "." ++ padded 6 t.microsecond
  t.date.text ++ " " ++ padded 2 t.hour ++ ":" ++ padded 2 t.minute ++ ":" ++ padded 2 t.second ++
    fraction ++ (t.offset.map offsetText).getD ""

def quoted (t : Timestamp) : String :=
  let parts := [t.date.year, t.date.month, t.date.day, t.hour, t.minute]
  let parts := parts ++ (if t.second = 0 ∧ t.microsecond = 0 then [] else [t.second])
  let parts := parts ++ (if t.microsecond = 0 then [] else [t.microsecond])
  let zone := match t.offset with
    | none => ""
    | some 0 => ", tzinfo=datetime.timezone.utc"
    | some o => ", tzinfo=datetime.timezone(" ++ delta o ++ ")"
  "datetime.datetime(" ++ ", ".intercalate (parts.map toString) ++ zone ++ ")"
where
  /-- An offset as whole days, rounded down, and the seconds left over. -/
  delta (o : Int) : String :=
    if o < 0 then s!"datetime.timedelta(days=-1, seconds={o + 86400})"
    else s!"datetime.timedelta(seconds={o})"

end Timestamp

end Qualify
