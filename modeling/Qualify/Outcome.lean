import Qualify.BaseScore
import Qualify.Condition
import Qualify.Rule.Reader

/-!
# Outcomes of rules

What one rule does to a lead: it is applied and adds points, it does not match, or it is skipped for
a reason. No rule makes an evaluation fail.
-/

namespace Qualify

/-- Points that a rule adds, with its reason. -/
structure Adjustment where
  reason : String
  delta : Int
deriving Repr, DecidableEq, Inhabited

namespace Adjustment

def text (a : Adjustment) : String := a.reason ++ " (" ++ signedText a.delta ++ ")"

end Adjustment

/-- Why a rule is skipped. -/
inductive SkipReason where
  | disabled
  | invalidRule
  | invalidDefinition (fault : DefinitionFault)
  | evaluationError (failure : Failure)
deriving DecidableEq

namespace SkipReason

def name : SkipReason → String
  | disabled => "disabled"
  | invalidRule => "invalid_rule"
  | invalidDefinition _ => "invalid_definition"
  | evaluationError _ => "evaluation_error"

/-- What there is to say about the reason. -/
def message? : SkipReason → Option String
  | invalidDefinition f => some f.message
  | evaluationError f => some f.message
  | _ => none

end SkipReason

inductive Verdict where
  | applied (a : Adjustment)
  | notMatched
  | skipped (r : SkipReason)
deriving DecidableEq

/-- The verdict on a rule, which is known by its name if it has one. -/
structure Outcome where
  ruleId : Option String
  verdict : Verdict
deriving DecidableEq

namespace Outcome

def status (o : Outcome) : String :=
  match o.verdict with
  | .applied _ => "applied"
  | .notMatched => "not_matched"
  | .skipped _ => "skipped"

def adjustment? (o : Outcome) : Option Adjustment :=
  match o.verdict with
  | .applied a => some a
  | _ => none

def skipReason? (o : Outcome) : Option SkipReason :=
  match o.verdict with
  | .skipped r => some r
  | _ => none

/-- The points that the rule adds, zero unless it is applied. -/
def delta (o : Outcome) : Int := (o.adjustment?.map Adjustment.delta).getD 0

end Outcome

/-! ## Reasons of weight rules -/

/-- Words that are written in capitals. -/
def acronyms : List (String × String) :=
  [("utm", "UTM"), ("id", "ID"), ("url", "URL"), ("crm", "CRM")]

/-- The characters of a segment with a space at every change from lower to upper case; underscores
and hyphens are spaces too. The flag tells whether a small letter or digit comes before. -/
def spaced : Bool → List Char → List Char
  | _, [] => []
  | small, c :: cs =>
    let rest := spaced (Domain.isLetterOrDigit c) cs
    if c = '_' ∨ c = '-' then ' ' :: rest
    else if small && 'A' ≤ c && c ≤ 'Z' then ' ' :: c :: rest
    else c :: rest

/-- A word as it stands in a reason. -/
def reasonWord (w : List Char) : List Char :=
  let w := Text.lower w
  ((acronyms.lookup (String.ofList w)).map String.toList).getD w

/-- The words of a path's segments, the outermost mapping of fields left out. -/
def pathWords (path : String) : List (List Char) :=
  ((Value.segments path).filter fun s => s ≠ "fields".toList ∧ s ≠ []).flatMap fun s =>
    (Text.words (spaced false s)).map reasonWord

/-- The reason of a weight rule that names none: its path in words. -/
def weightReason (path : String) : Except Failure String :=
  let words := Text.joinWith [' '] (pathWords path)
  match if words.isEmpty then path.toList else words with
  | [] => .error .emptyText
  | c :: cs => .ok (String.ofList (Text.upperChar c ++ cs) ++ " weight")

/-- The key under which a value is looked up in a table of weights, if it has one. -/
def weightKey (v : Value) : Except Failure (Option String) :=
  match v with
  | .bool b => .ok (some (if b then "true" else "false"))
  | .text s => .ok (some s)
  | v => if v.isNumber then some <$> v.toText else .ok none

/-! ## Verdicts -/

/-- A given reason, unless it is missing or empty. -/
def givenReason (reason : Option String) : Option String := reason.filter fun s => !s.isEmpty

namespace Definition

/-- What a definition adds to a lead's points, if it matches. -/
def adjustment? (d : Definition) (id : String) (cells : Cells) (root : Value) :
    Except Failure (Option Adjustment) := do
  match d with
  | ifThen conditions adjust reason =>
    if ← Condition.allHold cells root conditions then
      let reason := (givenReason reason).getD ("Rule " ++ id)
      return some ⟨reason, ← adjust.toPoints⟩
    else return none
  | weight field weights reason =>
    match ← weightKey (← root.resolve cells field) with
    | none => return none
    | some key =>
      match weights.get? key with
      | none => return none
      | some x =>
        let reason ← match givenReason reason with
          | some r => pure r
          | none => weightReason field
        return some ⟨reason, ← x.toPoints⟩

end Definition

namespace Rule

def verdict (r : Rule) (cells : Cells) (root : Value) : Verdict :=
  if !r.enabled then .skipped .disabled
  else match r.readDefinition with
    | .error f => .skipped (.invalidDefinition f)
    | .ok d =>
      match d.adjustment? r.id cells root with
      | .error f => .skipped (.evaluationError f)
      | .ok none => .notMatched
      | .ok (some a) => .applied a

def outcome (r : Rule) (cells : Cells) (root : Value) : Outcome :=
  ⟨some r.id, r.verdict cells root⟩

end Rule

end Qualify
