/-!
# Transcripts

What a run of a command leaves: texts on its output, texts on its error output, and how it ends.
-/

namespace Qualify

inductive Ending where
  | exit (code : Nat)
  /-- Something that is no fault of the library goes through. -/
  | broken (kind : String)
deriving DecidableEq

structure Transcript where
  /-- The texts on the output, in order. -/
  output : List String := []
  errors : List String := []
  ending : Ending := .exit 0
deriving DecidableEq

namespace Transcript

/-- A run up to a point and what follows it. -/
def andThen (t u : Transcript) : Transcript :=
  ⟨t.output ++ u.output, t.errors ++ u.errors, u.ending⟩

@[simp] theorem output_andThen (t u : Transcript) :
    (t.andThen u).output = t.output ++ u.output := rfl

@[simp] theorem errors_andThen (t u : Transcript) :
    (t.andThen u).errors = t.errors ++ u.errors := rfl

def lines (ls : List String) : Transcript := { output := ls.map (· ++ "\n") }

def errorLines (ls : List String) (code : Nat) : Transcript :=
  { errors := ls.map (· ++ "\n"), ending := .exit code }

/-- A complaint that ends the run. -/
def refuse (message : String) : Transcript := errorLines ["✗ " ++ message] 1

end Transcript

end Qualify
