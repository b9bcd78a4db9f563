import Qualify.CommandLine
import Qualify.Folder
import Qualify.Settings
import Qualify.Text.Alphanumeric

/-!
# Commands

The commands of the program and what they take. A line of words names a command, or asks for help, or
is at fault. The first fault counts: faults of the words come before those of what they stand for.
-/

namespace Qualify

/-- Where a command runs. -/
structure Surroundings where
  folder : Folder := []
  /-- The variables of the environment. -/
  env : Variables := []
  /-- What stands on the input. -/
  input : List UInt8 := []

/-- Where a lead is. -/
inductive LeadText where
  | input
  | file (bytes : List UInt8)

inductive Command where
  /-- Checks a file of rules. -/
  | validate (path : String)
  /-- Scores one lead for a team. -/
  | score (team : String) (rules : Option String) (explains : Bool) (lead : LeadText)
  /-- Scores the leads on the lines of the input. -/
  | stream (team : String) (rules : Option String)
  /-- Writes the document that a team starts with. -/
  | defaults (team : String)

/-- What is replied where no command runs. -/
inductive Reply where
  | help (f : CommandForm)
  /-- Help for want of words. -/
  | noWords (f : CommandForm)
  | version
  | complaint (f : CommandForm) (fault : UsageFault)

namespace Command

def readsInput : Command → Bool
  | score _ _ _ .input | stream .. => true
  | _ => false

/-! ## Forms -/

def programName : String := "cli"

def helpOption : OptionForm := { name := "--help", note := "Show this message and exit." }

def versionOption : OptionForm := { name := "--version", note := "Show the version and exit." }

def teamOption : OptionForm where
  name := "--team"
  valueName := some "TEXT"
  note := "Team whose configuration to use"
  isRequired := true

def rulesOption : OptionForm where
  name := "--rules-file"
  valueName := some "FILE"
  note := "Scoring rules YAML (defaults to SCORING_RULES_PATH)"

def explainOption : OptionForm where
  name := "--explain"
  note := "Print a human-readable summary instead of JSON"

/-- The path of a file of rules as an argument. -/
def pathArgument : String := "PATH"

def leadArgument : String := "LEAD_FILE"

def defaultsForm : CommandForm where
  path := programName ++ " defaults"
  paragraphs := ["Print the default team configuration as a rules document"]
  options :=
    [{ name := teamOption.name, valueName := teamOption.valueName,
       note := "Team id for the generated document" }, helpOption]

def scoreForm : CommandForm where
  path := programName ++ " score"
  paragraphs := ["Score the lead in LEAD_FILE (JSON, use - for stdin)"]
  options := [teamOption, rulesOption, explainOption, helpOption]
  argument := some leadArgument

def streamForm : CommandForm where
  path := programName ++ " stream"
  paragraphs :=
    ["Score newline-delimited JSON leads from stdin, one result per line",
     "With HOT_RELOAD_ENABLED the rules file is watched and edits apply to the leads that follow."]
  options := [teamOption, rulesOption, helpOption]

def validateForm : CommandForm where
  path := programName ++ " validate"
  paragraphs := ["Validate a scoring rules YAML file"]
  options := [helpOption]
  argument := some pathArgument

/-- The forms of the commands by name, sorted. -/
def forms : List (String × CommandForm) :=
  [("defaults", defaultsForm), ("score", scoreForm), ("stream", streamForm),
   ("validate", validateForm)]

/-- The form of the program itself. -/
def programForm : CommandForm where
  path := programName
  paragraphs := ["LeadScore CLI - deterministic lead scoring and rule evaluation"]
  options := [versionOption, helpOption]
  commands := forms.map fun f => (f.1, f.2.paragraphs.headD "")

/-! ## What words stand for -/

/-- A path at which there may be a file. -/
def filePath (s : Surroundings) (parameter path : String) : Except UsageFault String :=
  if path ≠ "" ∧ s.folder.find (.ofText path) = .directory then .error (.directory parameter path)
  else .ok path

def rulesPath (s : Surroundings) (g : Given) : Except UsageFault (Option String) :=
  match g.value? rulesOption.name with
  | some path => some <$> filePath s rulesOption.name path
  | none => .ok none

def argument (name : String) (g : Given) : Except UsageFault String :=
  match g.arguments with
  | word :: _ => .ok word
  | [] => .error (.missingArgument name)

/-- A lead by the path of its file; a dash stands for the input. -/
def leadText (s : Surroundings) (word : String) : Except UsageFault LeadText :=
  if word = "-" then .ok .input
  else match s.folder.read word with
    | .ok bytes => .ok (.file bytes)
    | .error f => .error (.unreadable leadArgument word f.message)

def team (g : Given) : Except UsageFault String :=
  match g.value? teamOption.name with
  | some team => .ok team
  | none => .error (.missingOption teamOption.name)

/-- No more than these many arguments. -/
def atMost (count : Nat) (g : Given) : Except UsageFault Unit :=
  match g.arguments.drop count with
  | [] => .ok ()
  | words => .error (.extraArguments words)

/-- The command that its words stand for. -/
def ofGiven (s : Surroundings) (name : String) (g : Given) : Except UsageFault Command :=
  match name with
  | "validate" => do
    let path ← filePath s pathArgument (← argument pathArgument g)
    atMost 1 g
    return .validate path
  | "score" => do
    let rules ← rulesPath s g
    let lead ← leadText s (← argument leadArgument g)
    let team ← team g
    atMost 1 g
    return .score team rules (g.has explainOption.name) lead
  | "stream" => do
    let rules ← rulesPath s g
    let team ← team g
    atMost 0 g
    return .stream team rules
  | _ => do
    atMost 0 g
    return .defaults ((g.value? teamOption.name).getD "default")

/-! ## Lines of words -/

def complain {α : Type} (f : CommandForm) : Except UsageFault α → Except Reply α
  | .ok a => .ok a
  | .error fault => .error (.complaint f fault)

/-- What the words give, unless they ask for help or the version: the first of these counts. -/
def readForm (f : CommandForm) (words : List String) : Except Reply Given := do
  let g ← complain f (f.read words)
  match g.options.find? fun o => o.1 == helpOption.name || o.1 == versionOption.name with
  | some (name, _) => .error (if name = helpOption.name then .help f else .version)
  | none => return g

/-- The fault of a name that no command has. What starts like an option is read as one first. -/
def unknown (name : String) (rest : List String) : Except Reply Command := do
  if name.toList.head?.any fun c => !Text.isAlphanumeric c then
    discard (readForm programForm (name :: rest))
  complain programForm (.error (.noCommand name (Text.similarTo name (forms.map (·.1)))))

/-- The command that a line of words stands for. -/
def read (s : Surroundings) (words : List String) : Except Reply Command := do
  if words.isEmpty then .error (.noWords programForm)
  let g ← readForm programForm words
  match g.arguments with
  | [] => complain programForm (.error .missingCommand)
  | name :: rest =>
    match forms.lookup name with
    | some f => do
      let given ← readForm f rest
      complain f (ofGiven s name given)
    | none => unknown name rest

end Command

end Qualify
