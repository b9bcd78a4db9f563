import Qualify.Command.Run
import Qualify.Proofs.Defaults
import Qualify.Proofs.Source.History
import Qualify.Proofs.Value.Data
import Qualify.Proofs.Yaml.Data
import Qualify.Proofs.Yaml.Written

/-!
# A team that starts with the defaults

A file with what the command for the defaults writes is read as the very text, since that consists of
characters that every reading keeps (`Yaml.text_write`).  As far as reading undoes writing on the
document, a source then serves the defaults for that team, and evaluates every lead as they do by
themselves (`Program.run_defaults`).
-/

namespace Qualify

namespace Command

theorem read_defaults (s : Surroundings) (t : String) :
    read s ["defaults", "--team", t] = .ok (.defaults t) := by
  cbv

theorem run_defaults_eq_write {t : String} {es : List (String × Json)}
    (h : (Defaults.documentOf t).json? = some (.object es)) (s : Surroundings) :
    (defaults t).run s = { output := [Yaml.write es] } := by
  have htext : defaultsText t = some (Yaml.write es) := by
    unfold defaultsText
    rw [Defaults.document_text]
    simp [Except.toOption, h]
  show ({ output := (defaultsText t).toList } : Transcript) = _
  rw [htext]
  rfl

end Command

theorem Program.run_eq_write {t : String} {es : List (String × Json)}
    (h : (Defaults.documentOf t).json? = some (.object es)) (s : Surroundings) :
    Program.run s ["defaults", "--team", t] = { output := [Yaml.write es] } := by
  rw [Program.run, Command.read_defaults]
  exact Command.run_defaults_eq_write h s

/-- A file with a text that is read as the data of a rulebook holds that rulebook. -/
theorem Rulebook.ofFile_of_read {bytes : List UInt8} {text : String} {doc : Value} {b : Rulebook}
    (hbytes : Utf8.text bytes = .ok text) (hread : Yaml.read text = .ok doc)
    (hdoc : Check.rulebook doc = .valid b) (hempty : doc.isEmpty = false) :
    ofFile (.file bytes) = .ok b := by
  refine ofFile_eq_ok_iff.mpr ⟨doc, ?_, hdoc⟩
  simp only [dataOf, hbytes, hread, hempty]
  rfl

/-- The document with the defaults for a team is a rulebook that has this team alone, with the default
scorecard under the name of the team and the rules of the team.  The command writes one text.  If that
is read as the document it was written from, a source loads the file with the text as this rulebook,
and evaluates every lead for the team as under the default scorecard and the rules of the team. -/
theorem Program.run_defaults (s : Surroundings) (t : String) :
    ∃ doc b text,
      Defaults.document (.text t) = .ok doc ∧
      Check.rulebook doc = .valid b ∧
      b = ⟨"1.0", [(t, ⟨{ Defaults.scorecard with teamId := some t }, Defaults.rules (some t)⟩)]⟩ ∧
      Program.run s ["defaults", "--team", t] = { output := [text] } ∧
      (Yaml.read text = .ok doc → ∀ source : Source, ∃ source',
        source.load (.file (Utf8.bytes text)) = .ok (source', b) ∧
        ∀ e cells lead, source'.evaluate e cells (.text t) lead =
          .ok (e.evaluate cells lead (.scorecard Defaults.scorecard)
            (.list ((Defaults.rules (some t)).map Rule.toValue)))) := by
  obtain ⟨es, hes⟩ : ∃ es, (Defaults.documentOf t).json? = some (.object es) := ⟨_, rfl⟩
  have hrulebook := Defaults.rulebook_documentOf t
  refine ⟨_, _, _, Defaults.document_text t, hrulebook, rfl, Program.run_eq_write hes s, ?_⟩
  intro hread source
  have hfile := Rulebook.ofFile_of_read (Yaml.text_write es) hread hrulebook rfl
  refine ⟨_, Source.load_eq_ok_iff.mpr ⟨hfile, rfl⟩, ?_⟩
  intro e cells lead
  rw [← Defaults.evaluate_team]
  refine Source.evaluate_eq_ok_iff.mpr ⟨_, rfl, t, Defaults.team t, rfl, ?_, rfl⟩
  exact List.lookup_cons_self

/-! ### A team for growth -/

namespace Growth

def entries : List (String × Json) :=
  match (Defaults.documentOf "growth").json? with
  | some (.object es) => es
  | _ => []

theorem json_document : (Defaults.documentOf "growth").json? = some (.object entries) := rfl

/-- The characters that are written.  They are not spelled out: one evaluation writes them and reads
them again. -/
def chars : List Char := ((Yaml.writeEntries 0 entries {}).startLine 0).written.reverse

theorem write_entries : Yaml.write entries = String.ofList chars := rfl

/-- How far the characters are told apart. -/
def scanned : Yaml.Lexer × Option Yaml.Fault :=
  Yaml.Lexer.scan (chars.length + 1) { cursor := { rest := chars } }

theorem isSameData_scanned : chars.all Yaml.isAllowed ∧ scanned.2 = none ∧
    (scanned.1.found.Pairwise fun a b => b.1 < a.1) ∧
    scanned.1.data.toOption.any (Value.isSameData · (Defaults.documentOf "growth")) := by
  decide +kernel

theorem read_write : Yaml.read (Yaml.write entries) = .ok (Defaults.documentOf "growth") := by
  obtain ⟨hallowed, hfault, hfound, hdata⟩ := isSameData_scanned
  obtain ⟨v, hv, hsame⟩ := Except.exists_of_any hdata
  have hscan : Yaml.Lexer.scan (chars.length + 1) { cursor := { rest := chars } } = scanned := rfl
  rw [write_entries, Yaml.read_of_scan hscan hallowed hfault hfound, hv,
    Value.eq_of_isSameData _ _ hsame]

end Growth

/-- For one team the text is read as the document it was written from, and so the file serves the
defaults. -/
theorem Program.run_defaults_growth :
    ∃ text source',
      Program.run {} ["defaults", "--team", "growth"] = { output := [text] } ∧
      Yaml.read text = .ok (Defaults.documentOf "growth") ∧
      Source.load { path := .ofText "r" } (.file (Utf8.bytes text)) =
        .ok (source', ⟨"1.0", [("growth", Defaults.team "growth")]⟩) ∧
      ∀ e cells lead, source'.evaluate e cells (.text "growth") lead =
        .ok (e.evaluate cells lead (.scorecard Defaults.scorecard)
          (.list ((Defaults.rules (some "growth")).map Rule.toValue))) := by
  obtain ⟨doc, b, text, hdocument, -, rfl, hrun, h⟩ := Program.run_defaults {} "growth"
  obtain rfl : Defaults.documentOf "growth" = doc := Except.ok.inj hdocument
  have hread : Yaml.read text = .ok (Defaults.documentOf "growth") := by
    have htext : [text] = [Yaml.write Growth.entries] := congrArg Transcript.output
      (hrun.symm.trans (Program.run_eq_write Growth.json_document {}))
    rw [List.singleton_inj.mp htext]
    exact Growth.read_write
  obtain ⟨source', hload, hevaluate⟩ := h hread { path := .ofText "r" }
  exact ⟨text, source', hrun, hread, hload, hevaluate⟩

end Qualify
