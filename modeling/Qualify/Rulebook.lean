import Qualify.Rule.Reader
import Qualify.Text.Digit

/-!
# Rulebooks

A rulebook holds the scorecard and the rules of every team, by team. It has at least one team, and
within a team no two rules have the same name.
-/

namespace Qualify

structure Team where
  scorecard : Scorecard
  rules : List Rule := []

structure Rulebook where
  version : String
  /-- The teams by name, in the order of the document. -/
  teams : List (String × Team)

namespace Team

/-- The names that more than one of the team's rules has, sorted. -/
def repeatedIds (t : Team) : List String :=
  let ids := t.rules.map Rule.id
  ((ids.filter fun id => 1 < ids.count id).eraseDups).mergeSort fun a b => !decide (b < a)

end Team

namespace Rulebook

def team? (b : Rulebook) (name : String) : Option Team := b.teams.lookup name

/-- The teams with an incomplete scorecard, as far as the teams' rules have names of their own. -/
def incompleteTeams (teams : List (String × Team)) : List String :=
  ((teams.takeWhile fun t => t.2.repeatedIds.isEmpty).filter fun t =>
    !t.2.scorecard.isComplete).map (·.1)

end Rulebook

namespace Check

def team (v : Value) : Checked Team :=
  (record "TeamScoringSettings" v).andThen fun es =>
    Team.mk <$> required ["config"] scorecard es <*> optional ["rules"] [] (listOf rule) es

def versionPattern : String := "^\\d+\\.\\d+$"

/-- Digits, a point and digits. -/
def isVersion (cs : List Char) : Bool :=
  match cs.dropWhile Text.isDecimalDigit with
  | '.' :: rest =>
    (cs.head?.any Text.isDecimalDigit) && !rest.isEmpty && rest.all Text.isDecimalDigit
  | _ => false

def version (v : Value) : Checked String :=
  (text v).andThen fun s =>
    if isVersion s.toList then .valid s else .refuse (.unmatched versionPattern)

/-- The teams by name. -/
def teams (v : Value) : Checked (List (String × Team)) :=
  match v with
  | .map es => (Checked.ofExcept (withTextKeys es)).andThen (tableEntries team)
  | _ => .refuse .noMapping

/-- A rulebook whose parts are fine. -/
def draft (v : Value) : Checked Rulebook :=
  (record "ScoringRulesDocument" v).andThen fun es =>
    Rulebook.mk <$> required ["version"] version es <*> required ["teams"] teams es

/-- The first team with rules of one name. -/
def repetition? (ts : List (String × Team)) : Option Complaint :=
  (ts.find? fun t => !t.2.repeatedIds.isEmpty).map fun t => .repeatedRules t.1 t.2.repeatedIds

def rulebook (v : Value) : Checked Rulebook :=
  (draft v).andThen fun b =>
    if b.teams.isEmpty then .refuse .noTeams
    else match repetition? b.teams with
      | some c => .refuse c
      | none => .valid b

end Check

end Qualify
