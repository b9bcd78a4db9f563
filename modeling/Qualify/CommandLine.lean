import Qualify.Text.Quoted
import Qualify.Text.Similar

/-!
# Command lines

The words behind a command are options and arguments. An option starts with a dash and may have a
value, which is the next word or stands behind an equals sign; two dashes alone end the options. What
a command takes is told by its form.
-/

namespace Qualify

/-- An option of a command. A flag has no value. -/
structure OptionForm where
  name : String
  /-- What its value is called. -/
  valueName : Option String := none
  note : String
  isRequired : Bool := false

/-- What a command takes. -/
structure CommandForm where
  /-- The words that the command is called by. -/
  path : String
  /-- What the command does. -/
  paragraphs : List String
  options : List OptionForm
  /-- What its argument is called, if it takes one. -/
  argument : Option String := none
  /-- The commands that it leads to, with what they do. -/
  commands : List (String × String) := []

/-- What is wrong with the words of a command line. -/
inductive UsageFault where
  | noOption (name : String) (similar : List String)
  | needsValue (name : String)
  | takesNoValue (name : String)
  | missingOption (name : String)
  | missingArgument (name : String)
  | extraArguments (words : List String)
  /-- A path for an option or an argument leads to a folder. -/
  | directory (parameter path : String)
  /-- There is nothing to read at the path for an argument. -/
  | unreadable (parameter path reason : String)
  | missingCommand
  | noCommand (name : String) (similar : List String)

namespace UsageFault

/-- The names that may have been meant. -/
def offer : List String → String
  | [] => ""
  | [name] => " Did you mean " ++ name.inQuotes ++ "?"
  | names =>
    let sorted := names.mergeSort fun a b => !decide (b < a)
    " (Did you mean one of: " ++ ", ".intercalate (sorted.map String.inQuotes) ++ "?)"

def message : UsageFault → String
  | noOption name similar => "No such option " ++ name.inQuotes ++ "." ++ offer similar
  | needsValue name => "Option " ++ name.inQuotes ++ " requires an argument."
  | takesNoValue name => "Option " ++ name.inQuotes ++ " does not take a value."
  | missingOption name => "Missing option '" ++ name ++ "'."
  | missingArgument name => "Missing argument '" ++ name ++ "'."
  | extraArguments words =>
    "Got unexpected extra argument" ++ (if words.length = 1 then "" else "s") ++
      " (" ++ " ".intercalate words ++ ")"
  | directory parameter path =>
    "Invalid value for '" ++ parameter ++ "': File " ++ path.inQuotes ++ " is a directory."
  | unreadable parameter path reason =>
    "Invalid value for '" ++ parameter ++ "': '" ++ path ++ "': " ++ reason
  | missingCommand => "Missing command."
  | noCommand name similar => "No such command " ++ name.inQuotes ++ "." ++ offer similar

end UsageFault

/-- What the words of a command line give: options in order with their values, and arguments. -/
structure Given where
  options : List (String × String) := []
  arguments : List String := []

namespace Given

def withOption (name value : String) (g : Given) : Given :=
  { g with options := (name, value) :: g.options }

def withArgument (word : String) (g : Given) : Given :=
  { g with arguments := word :: g.arguments }

/-- The value of an option: of several the last one. -/
def value? (g : Given) (name : String) : Option String := g.options.reverse.lookup name

def has (g : Given) (name : String) : Bool := g.options.any fun o => o.1 == name

@[simp] theorem arguments_withOption (name value : String) (g : Given) :
    (g.withOption name value).arguments = g.arguments := rfl

@[simp] theorem options_withArgument (word : String) (g : Given) :
    (g.withArgument word).options = g.options := rfl

end Given

namespace CommandForm

/-- Is a word an option? One dash alone is not. -/
def isOption (word : String) : Bool := word.startsWith "-" && word != "-"

/-- A word up to an equals sign, and what stands behind it. -/
def splitValue (word : String) : String × Option String :=
  let cs := word.toList
  let name := cs.takeWhile (· != '=')
  (String.ofList name, (cs[name.length]?).map fun _ => String.ofList (cs.drop (name.length + 1)))

/-- The fault of an option that there is not. Behind one dash, every letter is an option. -/
def unknown (f : CommandForm) (word : String) : UsageFault :=
  if word.startsWith "--" then
    let name := (splitValue word).1
    .noOption name (Text.similarTo name (f.options.map OptionForm.name))
  else .noOption (String.ofList (word.toList.take 2)) []

/-- Reads words up to the first fault. Where a form leads to other commands, the first word that is
no option ends its own words. -/
def read (f : CommandForm) : List String → Except UsageFault Given
  | [] => .ok {}
  | word :: rest =>
    if word == "--" then .ok { arguments := rest }
    else if !isOption word then
      if f.commands.isEmpty then (read f rest).map (·.withArgument word)
      else .ok { arguments := word :: rest }
    else
      let (name, value) := splitValue word
      match f.options.find? fun o => o.name == name with
      | none => .error (f.unknown word)
      | some o =>
        if o.valueName.isNone then
          if value.isSome then .error (.takesNoValue name)
          else (read f rest).map (·.withOption name "")
        else match value, rest with
          | some v, rest => (read f rest).map (·.withOption name v)
          | none, v :: rest => (read f rest).map (·.withOption name v)
          | none, [] => .error (.needsValue name)

end CommandForm

end Qualify
