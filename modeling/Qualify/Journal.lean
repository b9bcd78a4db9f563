import Qualify.Event
import Qualify.Journal.Wording
import Qualify.Settings

/-!
# Journals

A journal takes down entries under a name and with a context, which is added to what the entries
bring along. An entry is written as a mapping. Some names are kept for the entry itself.
-/

namespace Qualify

/-- An error that an entry tells of. -/
structure JournalError where
  kind : String
  text : String

structure JournalEntry where
  level : Level
  wording : String
  arguments : List Value := []
  extra : Check.Entries := []
  error? : Option JournalError := none

structure Journal where
  name : String
  context : Check.Entries := []

/-- Why an entry cannot be taken down. -/
inductive JournalFault where
  | reserved (key : String)
  | wording (fault : WordingFault)
  /-- A key of this type has no place in a mapping that is written. -/
  | keyType (type : String)
  | value (failure : Failure)

namespace JournalFault

def kind : JournalFault → String
  | reserved _ => "KeyError"
  | wording f => f.kind
  | keyType _ => "TypeError"
  | value f => f.kind

def message : JournalFault → String
  | reserved key => ("Attempt to overwrite " ++ key.inQuotes ++ " in LogRecord").inQuotes
  | wording f => f.message
  | keyType type => "keys must be str, int, float, bool or None, not " ++ type
  | value f => f.message

end JournalFault

namespace JournalError

/-- The error in one line: its text stands in quotes where it is a key. -/
def line (e : JournalError) : String :=
  let text := if e.kind == "KeyError" then e.text.inQuotes else e.text
  if text.isEmpty then e.kind else e.kind ++ ": " ++ text

end JournalError

namespace Journal

/-- Entries with others put in, which replace those of the same key. -/
def merge (es new : Check.Entries) : Check.Entries :=
  new.foldl (fun acc e => Value.withEntry (e.1.text?.getD "") e.2 acc) es

def withContext (j : Journal) (es : Check.Entries) : Journal :=
  { j with context := merge j.context es }

/-- What an entry brings along, with the context. -/
def extras (j : Journal) (e : JournalEntry) : Check.Entries := merge e.extra j.context

/-- The names that an entry has for its own. -/
def reserved : List String :=
  ["message", "asctime", "name", "msg", "args", "levelname", "levelno", "pathname", "filename",
   "module", "exc_info", "exc_text", "stack_info", "lineno", "funcName", "created", "msecs",
   "relativeCreated", "thread", "threadName", "processName", "process"]

/-- Is this written? Names that start with an underscore stay inside. -/
def isWritten (key : String) : Bool := !key.startsWith "_"

/-! ## Values as they are written -/

/-- The digits of the numeral system of base 64. -/
def sixBits (n : Nat) : Char :=
  if n < 26 then Char.ofNat (n + 65)
  else if n < 52 then Char.ofNat (n + 71)
  else if n < 62 then Char.ofNat (n - 4)
  else if n = 62 then '+' else '/'

/-- Bytes as text, three of them in four characters. -/
def bytesText : List UInt8 → List Char
  | [] => []
  | [a] =>
    let n := a.toNat * 16
    [sixBits (n / 64), sixBits (n % 64), '=', '=']
  | [a, b] =>
    let n := (a.toNat * 256 + b.toNat) * 4
    [sixBits (n / 4096), sixBits (n / 64 % 64), sixBits (n % 64), '=']
  | a :: b :: c :: rest =>
    let n := (a.toNat * 256 + b.toNat) * 256 + c.toNat
    sixBits (n / 262144) :: sixBits (n / 4096 % 64) :: sixBits (n / 64 % 64) :: sixBits (n % 64) ::
      bytesText rest

/-- A key as it is written. -/
def writtenKey : Value → Except JournalFault String
  | .text s => .ok s
  | .null => .ok "null"
  | .bool b => .ok (if b then "true" else "false")
  | .float x => .ok x.text
  | .int n =>
    match integerText n with
    | .ok s => .ok s
    | .error f => .error (.value f)
  | v => .error (.keyType v.typeName)

/-- A value that is written as its text. -/
def writtenText (v : Value) : Except JournalFault Value :=
  match v.toText with
  | .ok s => .ok (.text s)
  | .error f => .error (.value f)

mutual

/-- A value as it is written: numbers, texts, lists and mappings as they are, all else as text. -/
def written (v : Value) : Except JournalFault Value :=
  match v with
  | .null => .ok .null
  | .bool b => .ok (.bool b)
  | .int n => .ok (.int n)
  | .float x => .ok (.float x)
  | .text s => .ok (.text s)
  | .bytes bs => .ok (.text (String.ofList (bytesText bs)))
  | .list xs | .tuple xs => return .list (← writtenItems xs)
  | .map es => return .map (← writtenEntries es [])
  | v => writtenText v
termination_by structural v

def writtenItems (xs : List Value) : Except JournalFault (List Value) :=
  match xs with
  | [] => .ok []
  | x :: xs => return (← written x) :: (← writtenItems xs)
termination_by structural xs

def writtenEntries (es before : List (Value × Value)) :
    Except JournalFault (List (Value × Value)) :=
  match es with
  | [] => .ok before
  | (k, v) :: es => do
    let key ← writtenKey k
    let v ← written v
    writtenEntries es (Value.withEntry key v before)
termination_by structural es

end

/-- The mapping that an entry is written as, under these settings and at this time. -/
def record (j : Journal) (s : Settings) (time : String) (e : JournalEntry) :
    Except JournalFault Check.Entries := do
  let extras := j.extras e
  match extras.findSome? fun x => x.1.text?.filter reserved.contains with
  | some key => .error (.reserved key)
  | none => pure ()
  let message ← match Wording.fill e.wording e.arguments with
    | .ok m => pure m
    | .error f => .error (.wording f)
  let extras ← writtenEntries (extras.filter fun x => x.1.text?.all isWritten) []
  let error := (e.error?.map fun x =>
    [(Value.text "exc_info", Value.text x.line), (.text "exception", .text x.line)]).getD []
  return merge extras <|
    [(.text "message", .text message), (.text "name", .text j.name), (.text "timestamp", .text time),
     (.text "app", .text s.appName), (.text "environment", .text s.environment.name),
     (.text "level", .text e.level.name), (.text "logger", .text j.name)] ++ error

end Journal

/-! ## Setting a journal up -/

/-- How entries are written: as mappings with these parts, or as lines. -/
structure JournalStyle where
  format : LogFormat
  parts : String
  timeFormat : Option String

namespace JournalStyle

def of : LogFormat → JournalStyle
  | .json => ⟨.json, "%(timestamp)s %(level)s %(name)s %(message)s", none⟩
  | .text =>
    ⟨.text, "%(asctime)s - %(name)s - %(levelname)s - %(message)s", some "%Y-%m-%d %H:%M:%S"⟩

/-- The style of a name: everything but JSON is lines. -/
def ofName (name : String) : JournalStyle := of (if name == "json" then .json else .text)

end JournalStyle

/-- The least level of what the watching of files tells. -/
def watchingLevel : Level := .warning

/-- The level of a name in any case, where two have a second name. -/
def Level.ofName? (name : String) : Option Level :=
  let name := name.upperCase
  if name == "WARN" then some .warning
  else if name == "FATAL" then some .critical
  else Check.levels.find? fun l => l.name == name

end Qualify
