import Qualify.CommandLine
import Qualify.Text.Blank
import Qualify.Text.Layout

/-!
# Help pages

A help page tells how a command is called, what it does, its options and the commands that it leads
to. Names and notes stand in two columns.
-/

namespace Qualify

namespace OptionForm

def title (o : OptionForm) : String :=
  match o.valueName with
  | some v => o.name ++ " " ++ v
  | none => o.name

def text (o : OptionForm) : String := if o.isRequired then o.note ++ "  [required]" else o.note

end OptionForm

namespace CommandForm

/-- How long the lines of a page may be. -/
def pageWidth : Nat := 80

/-- How the command is called. -/
def usage (f : CommandForm) : String :=
  let rest := if f.commands.isEmpty then f.argument.toList else ["COMMAND", "[ARGS]..."]
  "Usage: " ++ " ".intercalate (f.path :: "[OPTIONS]" :: rest)

/-- A paragraph behind an empty line. -/
def paragraph (p : String) : List String :=
  "" :: Text.filled pageWidth 2 ((Text.words p.toList).map String.ofList)

def help (f : CommandForm) : List String :=
  f.usage :: f.paragraphs.flatMap paragraph ++
    "" :: "Options:" :: Text.columns (f.options.map fun o => (o.title, o.text)) ++
    if f.commands.isEmpty then [] else "" :: "Commands:" :: Text.columns f.commands

/-- What is told about a fault in the words of a command. -/
def complaint (f : CommandForm) (fault : UsageFault) : List String :=
  [f.usage, "Try '" ++ f.path ++ " --help' for help.", "", "Error: " ++ fault.message]

end CommandForm

end Qualify
