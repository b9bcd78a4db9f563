import Qualify.Check.Record
import Qualify.Event
import Qualify.Json.Reader
import Qualify.Settings.EnvFile
import Qualify.Text.Case

/-!
# Settings

Settings are given by name, by variables of the environment or in a file of variables. The first of
these that gives a setting counts, and one that none of them gives has a default. Variables are
named without regard to case, and lists are written in them as JSON.
-/

namespace Qualify

/-- Where the program runs. -/
inductive Environment where
  | development
  | test
  | staging
  | production
deriving Repr, DecidableEq, Inhabited

namespace Environment

def name : Environment → String
  | development => "development"
  | test => "test"
  | staging => "staging"
  | production => "production"

def all : List Environment := [development, test, staging, production]

end Environment

inductive LogFormat where
  | json
  | text
deriving Repr, DecidableEq, Inhabited

namespace LogFormat

def name : LogFormat → String
  | json => "json"
  | text => "text"

end LogFormat

structure Settings where
  environment : Environment := .development
  debug : Bool := false
  testing : Bool := false
  appName : String := "LeadScore"
  appVersion : String := "0.1.0"
  logLevel : Level := .info
  logFormat : LogFormat := .json
  metricsEnabled : Bool := true
  rulesPath : String := "config/scoring_rules.yaml"
  watches : Bool := false
  /-- How many seconds a change has to be over before a reload. -/
  debounce : Binary64 := .ofRatio false 2 1
  extraCompetitors : List String := []
  extraFreeMail : List String := []

/-- The variables of the environment, in the order in which they were set. -/
abbrev Variables := List (String × String)

namespace Check

def environment (v : Value) : Checked Environment :=
  (text v).andThen fun s =>
    match Environment.all.find? fun e => e.name == s with
    | some e => .valid e
    | none => .refuse (.unknownName "Environment" (Environment.all.map Environment.name))

def levels : List Level := [.debug, .info, .warning, .error, .critical]

def logLevel (v : Value) : Checked Level :=
  (text v).andThen fun s =>
    match levels.find? fun l => l.name == s.upperCase with
    | some l => .valid l
    | none => .refuse (.unknownName "Log level" (levels.map Level.name))

def logFormat (v : Value) : Checked LogFormat :=
  (text v).andThen fun s =>
    match [LogFormat.json, .text].find? fun f => f.name == s with
    | some f => .valid f
    | none => .refuse .unknownFormat

/-- Domains in lower case without blanks around them; blank ones are left out. -/
def extraDomains (v : Value) : Checked (List String) :=
  (listOf text v).map fun ds => (ds.map fun d => d.trimBlanks.lowerCase).filter fun d => !d.isEmpty

/-- Settings from the values given for them. -/
def settings (es : Entries) : Checked Settings :=
  let d : Settings := {}
  Settings.mk <$>
    optional ["environment"] d.environment environment es <*>
    optional ["debug"] d.debug boolean es <*>
    optional ["testing"] d.testing boolean es <*>
    optional ["app_name"] d.appName text es <*>
    optional ["app_version"] d.appVersion text es <*>
    optional ["log_level"] d.logLevel logLevel es <*>
    optional ["log_format"] d.logFormat logFormat es <*>
    optional ["prometheus_enabled"] d.metricsEnabled boolean es <*>
    optional ["scoring_rules_path"] d.rulesPath text es <*>
    optional ["hot_reload_enabled"] d.watches boolean es <*>
    optional ["hot_reload_debounce_seconds"] d.debounce
      (fun v => (nonnegative v).map Subtype.val) es <*>
    optional ["extra_competitor_domains"] d.extraCompetitors extraDomains es <*>
    optional ["extra_free_email_domains"] d.extraFreeMail extraDomains es

end Check

/-- What gives settings in variables. -/
inductive VariableSource where
  | environment
  | file
deriving DecidableEq

/-- Why there are no settings. -/
inductive SettingsFault where
  /-- A list is not written as JSON. -/
  | unreadable (setting : String) (source : VariableSource)
  | invalid (problems : List Problem)

namespace SettingsFault

def message : SettingsFault → String
  | unreadable setting source =>
    let source := match source with
      | .environment => "EnvSettingsSource"
      | .file => "DotEnvSettingsSource"
    "error parsing value for field \"" ++ setting ++ "\" from source \"" ++ source ++ "\""
  | invalid ps => "; ".intercalate (ps.map Problem.text)

end SettingsFault

namespace Settings

/-- The settings by name; true marks those that are lists. -/
def names : List (String × Bool) := [
  ("environment", false), ("debug", false), ("testing", false), ("app_name", false),
  ("app_version", false), ("log_level", false), ("log_format", false),
  ("prometheus_enabled", false), ("scoring_rules_path", false), ("hot_reload_enabled", false),
  ("hot_reload_debounce_seconds", false), ("extra_competitor_domains", true),
  ("extra_free_email_domains", true)]

/-- The value that a variable gives a setting: the last variable of that name counts. -/
def given? (assignments : List Assignment) (name : String) : Option String :=
  ((assignments.reverse.find? fun v => v.1.lowerCase == name).map (·.2)).join

/-- The values that variables give the settings. -/
def fromVariables (source : VariableSource) (assignments : List Assignment) :
    List (String × Bool) → Except SettingsFault Check.Entries
  | [] => .ok []
  | (name, isList) :: rest =>
    match given? assignments name with
    | none => fromVariables source assignments rest
    | some s =>
      if isList then
        match Json.read s.toList with
        | .error _ => .error (.unreadable name source)
        | .ok .null => fromVariables source assignments rest
        | .ok j => do return (.text name, j.toValue) :: (← fromVariables source assignments rest)
      else do return (.text name, .text s) :: (← fromVariables source assignments rest)

/-- Settings from what is given by name, the variables of the environment and a file of variables. -/
def read (given : Check.Entries) (env : Variables) (file : Option String) :
    Except SettingsFault Settings := do
  let environment ← fromVariables .environment (env.map fun v => (v.1, some v.2)) names
  let file ← fromVariables .file (EnvFile.read env (file.getD "")) names
  match Check.settings (given ++ environment ++ file) with
  | .valid s => return s
  | .invalid ps => .error (.invalid ps)

/-- The variable that overrides the path of the rules, in exactly this spelling. -/
def pathVariable : String := "SCORING_RULES_PATH"

/-- The path of the rules under the variables that are set now. An empty variable does not count. -/
def pathUnder (s : Settings) (env : Variables) : String :=
  match env.reverse.lookup pathVariable with
  | some p => if p.isEmpty then s.rulesPath else p
  | none => s.rulesPath

def isProduction (s : Settings) : Bool := s.environment == .production

def isDevelopment (s : Settings) : Bool := s.environment == .development

end Settings

end Qualify
