import Mathlib
import Qualify.Command.Run
import Qualify.Proofs.Application.Agreement
import Qualify.Proofs.Evaluation
import Qualify.Proofs.Source.History

/-!
# What a file that passes validation does when it is served

The command that validates a file looks at the rulebook in it without a lead; evaluating a lead
looks at the same rulebook through a source.  `Program.run_validate` puts both together: the command
ends well exactly when there is nothing to be said against any rule, and then no evaluation is
without a scorecard and no rule is refused in one.
-/

namespace Qualify

namespace Stop

end Stop

namespace Command

end Command

/-! ## Leads under such rules -/

namespace BaseScore

variable {tables : DomainTables} {lead : Lead} {c : Scorecard} {b : BaseScore}

end BaseScore

namespace Engine

variable {e : Engine} {cells : Cells} {lead : Value} {c : Scorecard} {vs : List Value}

end Engine

/-- A team that is named in a rulebook is found there. -/
theorem Rulebook.exists_team {b : Rulebook} {t : String × Team} (h : t ∈ b.teams) :
    ∃ u, b.team? t.1 = some u ∧ (t.1, u) ∈ b.teams := by
  have hsome : (b.team? t.1).isSome := List.lookup_isSome_iff.mpr ⟨t, h, beq_self_eq_true t.1⟩
  obtain ⟨u, hu⟩ := Option.isSome_iff_exists.mp hsome
  exact ⟨u, hu, List.mem_of_lookup_eq_some hu⟩

namespace OneRule

def lines : List String :=
  ["version: '1.0'", "teams:", " t:", "  config:", "   id: t", "  rules:", "  - id: a",
   "    type: WEIGHT", "    definition:", "     field: f", "     weights:", "      x: 5"]

def text : String := String.ofList (lines.flatMap fun line => line.toList ++ ['\n'])

def file : FileState := .file text.toByteArray.data.toList

def oneFile : Surroundings := { folder := [(.ofText "r", file)] }

def entry (key : String) (value : List Yaml.Token) : List Yaml.Token :=
  .key :: .scalar key true :: .value :: value

def block (entries : List (List Yaml.Token)) : List Yaml.Token :=
  .blockMappingStart :: entries.flatten ++ [.blockEnd]

def tokens : List Yaml.Token :=
  block [entry "version" [.scalar "1.0" false],
    entry "teams" (block [entry "t" (block [
      entry "config" (block [entry "id" [.scalar "t" true]]),
      entry "rules" (.blockEntry :: block [
        entry "id" [.scalar "a" true],
        entry "type" [.scalar "WEIGHT" true],
        entry "definition" (block [
          entry "field" [.scalar "f" true],
          entry "weights" (block [entry "x" [.scalar "5" true]])])])])])]

theorem tokens_text : Yaml.tokens text.toList = (tokens, none) := by
  rw [text, String.toList_ofList]
  cbv

theorem read_text :
    Yaml.read text = (Yaml.Compose.document.run' { tokens, fault := none } >>= fun
      | none => .ok .null
      | some n => (Yaml.build n).outcome) :=
  Yaml.read_of_tokens (by decide +kernel) tokens_text

theorem text_file : Utf8.text text.toByteArray.data.toList = .ok text := by
  decide +kernel

/-- The file holds a rulebook with one team, and there is nothing to be said against its rule. -/
theorem exists_ofFile_file :
    ∃ b, Rulebook.ofFile file = .ok b ∧
      b.teams.map (fun t => (t.1, t.2.rules.length)) = [("t", 1)] ∧
      Command.problemCount b = 0 := by
  have hany : (Rulebook.ofFile file).toOption.any fun b =>
      b.teams.map (fun t => (t.1, t.2.rules.length)) = [("t", 1)] ∧ Command.problemCount b = 0 := by
    simp only [Rulebook.ofFile, Rulebook.dataOf, file, text_file, read_text]
    decide +kernel
  obtain ⟨b, hb, hcounts⟩ := Except.exists_of_any hany
  exact ⟨b, hb, of_decide_eq_true hcounts⟩

end OneRule

end Qualify
