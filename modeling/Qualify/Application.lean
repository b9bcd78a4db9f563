import Qualify.Outcome

/-!
# Applying rules

A team's rules apply to a lead one by one, in ascending order with ties as they were given. What is
no rule is skipped, and comes first among the outcomes. Every outcome is that of the rule alone.
-/

namespace Qualify

/-- What all rules of a team do to a lead. -/
structure Application where
  /-- The base score with every adjustment, however large or small. -/
  total : Int
  outcomes : List Outcome := []
deriving DecidableEq

namespace Application

def adjustments (a : Application) : List Adjustment := a.outcomes.filterMap Outcome.adjustment?

def skipped (a : Application) : List Outcome :=
  a.outcomes.filter fun o => o.skipReason?.isSome

/-- A base score that is no integer with every adjustment, added to it in turn. -/
def fractionalTotal (a : Application) (base : Binary64) : Binary64 :=
  a.adjustments.foldl (fun x d => x.add (.ofInt d.delta)) base

/-- The items of what should be a list of rules: of a text its characters, of a mapping its keys, of
an object its fields. What is absent or empty has none. -/
def items (v : Value) : Except Failure (List Value) :=
  if v.isEmpty then .ok []
  else match v with
    | .list xs | .tuple xs | .set xs | .frozenSet xs => .ok xs
    | .map es => .ok (es.map (·.1))
    | .text s => .ok (s.toList.map fun c => .text (String.ofList [c]))
    | .bytes bs => .ok (bs.map fun b => .int b.toNat)
    | .scorecard _ => .ok (List.replicate 8 (.tuple []))
    | .rule .. => .ok (List.replicate 6 (.tuple []))
    | .bands _ => .ok (List.replicate 3 (.tuple []))
    | v => .error (.notIterable v.qualifiedTypeName)

/-- The outcome of what is no rule, known by the text of what stands where its name should be. -/
def malformed (v : Value) : Except Failure Outcome := do
  let id := (v.get? "id").getD .null
  return ⟨← if id.isNull then pure none else some <$> id.toText, .skipped .invalidRule⟩

/-- The rules among the items, and the outcomes of the others. -/
def sortOut : List Value → Except Failure (List Outcome × List Rule)
  | [] => .ok ([], [])
  | v :: vs => do
    match Check.rule v with
    | .valid r =>
      let (outcomes, rules) ← sortOut vs
      return (outcomes, r :: rules)
    | .invalid _ =>
      let o ← malformed v
      let (outcomes, rules) ← sortOut vs
      return (o :: outcomes, rules)

/-- Rules in ascending order, ties as they were given. -/
def inOrder (rules : List Rule) : List Rule := rules.mergeSort fun r s => r.order ≤ s.order

/-- The mapping that a lead's paths start from, the empty one for what is no lead. -/
def rootOf (cells : Cells) (lead : Value) : Value :=
  match Lead.ofValue? cells lead with
  | some l => l.root
  | none => .map []

/-- The outcomes of what should be a list of rules. -/
def outcomesOf (cells : Cells) (root rules : Value) : Except Failure (List Outcome) := do
  let (malformed, rules) ← sortOut (← items rules)
  return malformed ++ (inOrder rules).map fun r => r.outcome cells root

/-- The rules applied on top of a base score. -/
def ofRules (cells : Cells) (lead rules : Value) (base : Int) : Except Failure Application := do
  let outcomes ← outcomesOf cells (rootOf cells lead) rules
  return { total := base + (outcomes.map Outcome.delta).foldl (· + ·) 0, outcomes }

end Application

end Qualify
