import Qualify.Command
import Qualify.CommandLine.Help
import Qualify.Defaults
import Qualify.Evaluation.Writer
import Qualify.Json.Writer
import Qualify.Source
import Qualify.Transcript
import Qualify.Yaml.Writer

/-!
# Runs of commands

What every command leaves on the output. A fault of the library is told on the error output and ends
the run with one; a failure that is no such fault goes through.
-/

namespace Qualify

/-- Why a command stops before its end. -/
inductive Stop where
  | load (path : Location) (f : LoadFault)
  | source (f : SourceFault)
  | settings (f : SettingsFault)
  | lead (complaint : String)
  | broken (kind : String)

namespace Stop

/-- The wording of a fault. -/
def wording (f : Fault) : String :=
  match f.notice with
  | .ok n => n.message.text?.getD ""
  | .error _ => ""

def ofFault (kind : String) : Option Fault → Transcript
  | some f => .refuse (wording f)
  | none => { ending := .broken kind }

def transcript : Stop → Transcript
  | load path (.unbuildable f) => ofFault f.kind (LoadFault.fault? path (.unbuildable f))
  | load path f => ofFault "" (f.fault? path)
  | source (.unnamed f) => { ending := .broken f.kind }
  | source f => ofFault "" f.fault?
  | settings (.unreadable ..) => { ending := .broken "SettingsError" }
  | settings (.invalid _) => { ending := .broken "ValidationError" }
  | lead complaint => .refuse ("Lead file is not valid JSON: " ++ complaint)
  | broken kind => { ending := .broken kind }

end Stop

namespace Engine

/-- An engine that knows the domains of the settings too. -/
def ofSettings (s : Settings) : Engine := .withExtras s.extraCompetitors s.extraFreeMail

end Engine

namespace Surroundings

/-- The name of the file of variables. -/
def variablesFile : String := ".env"

def settings (s : Surroundings) : Except SettingsFault Settings :=
  let file := match s.folder.find (.ofText variablesFile) with
    | .file bytes => (Utf8.text bytes).toOption
    | _ => none
  Settings.read [] s.env file

def readSettings (s : Surroundings) : Except Stop Settings := s.settings.mapError .settings

/-- The path of the rules: the one that is given, or else that of the settings. -/
def rulesPath (s : Surroundings) : Option String → Except Stop Location
  | some path => .ok (.ofText path)
  | none => do return .ofText ((← s.readSettings).pathUnder s.env)

/-- The source that serves the rules at a path. -/
def openSource (s : Surroundings) (rules : Option String) : Except Stop Source := do
  let path ← s.rulesPath rules
  match ({ path } : Source).load (s.folder.find path) with
  | .ok (source, _) => return source
  | .error f => .error (.load path f)

def engine (s : Surroundings) : Except Stop Engine := do return .ofSettings (← s.readSettings)

end Surroundings

namespace Command

/-! ## Checking rules -/

/-- The complaints about the rules of a team. -/
def ruleRemarks (t : Team) : List String :=
  t.rules.flatMap fun r => r.remarksOn.map fun m => "  ✗ rule " ++ r.id ++ ": " ++ m

def configRemarks (t : Team) : List String :=
  (Scorecard.remarks t.scorecard.toData.withoutNulls).map ("  ! config " ++ ·)

/-- What is told about a team. -/
def teamLines (name : String) (t : Team) : List String :=
  s!"Team {name}: {t.rules.length} rule(s)" :: configRemarks t ++ ruleRemarks t

/-- How many complaints there are about the rules of a rulebook. -/
def problemCount (b : Rulebook) : Nat := (b.teams.flatMap fun t => ruleRemarks t.2).length

def validation (path : String) (b : Rulebook) : Transcript :=
  let n := problemCount b
  (Transcript.lines (b.teams.flatMap fun t => teamLines t.1 t.2)).andThen <|
    if n = 0 then .lines ["✓ " ++ path ++ " is valid"]
    else .refuse (s!"{n} rule problem(s) found in " ++ path)

def runValidate (s : Surroundings) (path : String) : Transcript :=
  let l := Location.ofText path
  match Rulebook.ofFile (s.folder.find l) with
  | .ok b => validation path b
  | .error f => (Stop.load l f).transcript

/-! ## Scoring -/

/-- What stands in a text as JSON. -/
inductive LeadReading where
  | lead (v : Value)
  | complaint (text : String)
  | broken (kind : String)

def readLead (cs : List Char) : LeadReading :=
  match Json.read cs with
  | .ok j => .lead j.toValue
  | .error (.complaint c left) => .complaint (Json.complaintText cs c left)
  | .error (.longInteger _) => .broken "ValueError"

/-- The characters of a file or of the input. -/
def characters (bytes : List UInt8) : Except Stop (List Char) :=
  match Utf8.text bytes with
  | .ok text => .ok text.toList
  | .error _ => .error (.broken "UnicodeDecodeError")

def leadBytes (s : Surroundings) : LeadText → List UInt8
  | .input => s.input
  | .file bytes => bytes

def leadValue (bytes : List UInt8) : Except Stop Value := do
  match readLead (← characters bytes) with
  | .lead v => return v
  | .complaint text => .error (.lead text)
  | .broken kind => .error (.broken kind)

/-- The evaluation of one lead. -/
def evaluation (s : Surroundings) (team : String) (rules : Option String) (lead : LeadText) :
    Except Stop Evaluation := do
  let lead ← leadValue (leadBytes s lead)
  let source ← s.openSource rules
  let engine ← s.engine
  (source.evaluate engine [] (.text team) lead).mapError .source

def runScore (s : Surroundings) (team : String) (rules : Option String) (explains : Bool)
    (lead : LeadText) : Transcript :=
  match evaluation s team rules lead with
  | .ok e => .lines (if explains then e.explanation else [e.document.pretty])
  | .error stop => stop.transcript

/-! ## Streams -/

/-- What becomes of a line of a stream. -/
inductive LineAnswer where
  | blank
  | evaluated (e : Evaluation)
  | skipped (number : Nat) (complaint : String)
  | broken (kind : String)

/-- The lines of a text, each with its line feed. -/
def inputLines : List Char → List (List Char)
  | [] => []
  | c :: cs =>
    if c = '\n' then [c] :: inputLines cs
    else match inputLines cs with
      | [] => [[c]]
      | l :: ls => (c :: l) :: ls

def answerLine (t : Team) (e : Engine) (number : Nat) (line : List Char) : LineAnswer :=
  if line.all Text.isBlank then .blank
  else match readLead line with
    | .lead v => .evaluated (t.evaluate e [] v)
    | .complaint text => .skipped number text
    | .broken kind => .broken kind

/-- The answers to lines that are counted from a number on. -/
def answers (t : Team) (e : Engine) : Nat → List (List Char) → List LineAnswer
  | _, [] => []
  | number, line :: lines => answerLine t e number line :: answers t e (number + 1) lines

/-- The answers up to one that ends the stream. -/
def streamed : List LineAnswer → Transcript
  | [] => {}
  | .blank :: as => streamed as
  | .evaluated e :: as => (Transcript.lines [e.document.line]).andThen (streamed as)
  | .skipped number complaint :: as =>
    (Transcript.errorLines [s!"! Skipping line {number}: not valid JSON ({complaint})"] 0).andThen
      (streamed as)
  | .broken kind :: _ => { ending := .broken kind }

/-- What the lines of a stream are scored with. -/
def streamTeam (s : Surroundings) (team : String) (rules : Option String) :
    Except Stop (Team × Engine) := do
  let source ← s.openSource rules
  let team ← (source.team (.text team)).mapError .source
  return (team, ← s.engine)

def runStream (s : Surroundings) (team : String) (rules : Option String) : Transcript :=
  match streamTeam s team rules with
  | .error stop => stop.transcript
  | .ok (team, engine) =>
    match characters s.input with
    | .error stop => stop.transcript
    | .ok cs => streamed (answers team engine 1 (inputLines cs))

/-! ## Defaults -/

/-- The document that a team starts with. -/
def defaultsText (team : String) : Option String := do
  let document ← (Defaults.document (.text team)).toOption
  match ← document.json? with
  | .object es => some (Yaml.write es)
  | _ => none

def runDefaults (team : String) : Transcript := { output := (defaultsText team).toList }

/-! ## The program -/

def run (s : Surroundings) : Command → Transcript
  | validate path => runValidate s path
  | score team rules explains lead => runScore s team rules explains lead
  | stream team rules => runStream s team rules
  | defaults team => runDefaults team

end Command

def Reply.transcript : Reply → Transcript
  | help f => .lines f.help
  | noWords f => .errorLines f.help 2
  | version => .lines [Command.programName ++ ", version " ++ ({ } : Settings).appVersion]
  | complaint f fault => .errorLines (f.complaint fault) 2

/-- The run of the program on a line of words. -/
def Program.run (s : Surroundings) (words : List String) : Transcript :=
  match Command.read s words with
  | .ok c => c.run s
  | .error reply => reply.transcript

end Qualify
