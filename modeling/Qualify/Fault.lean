import Qualify.Rule.Reader

/-!
# Faults

What the library reports instead of a result: a fault has a wording, a code by which it is told from
others, and details.
-/

namespace Qualify

inductive Fault where
  | general (message : Value) (code : Option String) (details : Value)
  /-- Input is not valid, in a field if one is named. -/
  | invalid (message : Value) (field : Option String) (details : Check.Entries)
  /-- The definition of a rule is not valid. -/
  | definition (ruleId message : Value) (details : Check.Entries)
  | missing (resource : String) (identifier : Value)
  /-- Something is wrong with a setting, if one is named, or with what it points to. -/
  | configuration (message : Value) (setting : Option String)

/-- A fault as it is told to others. -/
structure Fault.Notice where
  code : String
  message : Value
  details : Value

namespace Fault

/-- A name, unless it is empty. -/
def named (s : Option String) : Option String := s.filter fun s => !s.isEmpty

/-- The code of a fault that has none of its own. -/
def generalCode : String := "LeadScoreError"

/-- The details with a name at their front, if there is one. -/
def withName (key : String) (name : Option String) (es : Check.Entries) : Check.Entries :=
  match named name with
  | some s => (.text key, .text s) :: es
  | none => es

/-- The fault in full. What is missing is told by the text of its identifier. -/
def notice : Fault → Except Failure Notice
  | general message code details =>
    .ok ⟨(named code).getD generalCode, message, if details.isEmpty then .map [] else details⟩
  | invalid message field details =>
    .ok ⟨"VALIDATION_ERROR", message, .map (withName "field" field details)⟩
  | definition ruleId message details =>
    .ok ⟨"RULE_DEFINITION_ERROR", message,
      .map ((.text "field", .text "definition") :: (.text "rule_id", ruleId) :: details)⟩
  | missing resource identifier => do
    let id ← identifier.toText
    return ⟨"NOT_FOUND", .text (resource ++ " not found: " ++ id),
      .map [(.text "resource", .text resource), (.text "identifier", .text id)]⟩
  | configuration message setting =>
    .ok ⟨"CONFIGURATION_ERROR", message, .map (withName "setting" setting [])⟩

/-- A fault of the configuration with its wording. -/
def setting (message : String) (name : Option String) : Fault :=
  .configuration (.text message) name

end Fault

/-- The fault of a rule whose definition cannot be read. -/
def DefinitionFault.fault (f : DefinitionFault) (ruleId : String) : Fault :=
  .definition (.text ruleId) (.text f.message) <|
    if f.complaints.isEmpty then []
    else [(.text "errors", .list (f.complaints.map Value.text))]

end Qualify
