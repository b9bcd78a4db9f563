import Qualify.Command.Run

/-!
# The program

Looks up what a command line may need, runs it, and writes what it leaves.
-/

namespace Qualify.Program

/-- What stands at a path. -/
def stateAt (path : String) : IO FileState := do
  try
    return .file (← IO.FS.readBinFile path).toList
  catch e =>
    match e with
    | .inappropriateType _ 21 _ => return .directory
    | _ => return .absent

/-- The variables of the environment that are settings, in the usual spelling. -/
def settingVariables : IO Variables := do
  let mut env := []
  for (name, _) in Settings.names do
    let name := name.toUpper
    if let some value ← IO.getEnv name then
      env := env ++ [(name, value)]
  return env

/-- The paths that words may stand for. -/
def paths (words : List String) : List String :=
  words ++ words.filterMap fun w => (CommandForm.splitValue w).2

def look (folder : Folder) (path : String) : IO Folder := do
  return folder.put (.ofText path) (← stateAt path)

/-- Everything that a line of words may need apart from the input. -/
def surroundings (words : List String) : IO Surroundings := do
  let env ← settingVariables
  let folder ← (Surroundings.variablesFile :: paths words).foldlM look []
  let s : Surroundings := { folder, env }
  match s.rulesPath none with
  | .ok path => return { s with folder := ← look folder path.text }
  | .error _ => return s

/-- All that is left on the input. -/
partial def readInput (before : ByteArray) : IO ByteArray := do
  let bytes ← (← IO.getStdin).read 65536
  if bytes.isEmpty then return before else readInput (before ++ bytes)

end Qualify.Program

open Qualify in
def main (words : List String) : IO UInt32 := do
  let s ← Program.surroundings words
  let s ← match Command.read s words with
    | .ok c =>
      if c.readsInput then pure { s with input := (← Program.readInput .empty).toList } else pure s
    | .error _ => pure s
  let t := Program.run s words
  for text in t.output do IO.print text
  for text in t.errors do IO.eprint text
  match t.ending with
  | .exit code => return code.toUInt32
  | .broken kind =>
    IO.eprintln kind
    return 1
