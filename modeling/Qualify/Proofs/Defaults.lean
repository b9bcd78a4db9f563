import Qualify.Defaults
import Qualify.Proofs.Path
import Qualify.Proofs.Rulebook
import Qualify.Proofs.Scorecard.Written
import Qualify.Source

/-!
# What a new team starts with

A rule is read back from its data as a scorecard is (`Check.rule_toData`).  So the document with the
defaults for a team is a rulebook with that team alone, whatever the team is called
(`Defaults.rulebook_documentOf`).  The scorecard in it differs from the default one by the name of the
team only, and no evaluation looks at that (`Engine.evaluate_withTeamId`).
-/

namespace Qualify

/-! ## Rules read back from their data -/

namespace Rule

/-- The entries that a rule is written as. -/
def dataEntries (r : Rule) : List (String × Value) :=
  [("id", .text r.id), ("teamId", .ofText? r.teamId), ("type", .text r.kind.name),
    ("enabled", .bool r.enabled), ("order", .int r.order), ("definition", r.definition)]

/-- The entries that are left when nulls are left out. -/
def filledEntries (r : Rule) : List (Value × Value) :=
  (r.dataEntries.map fun e => (.text e.1, e.2)).filter fun e => !e.2.isNull

theorem lookup_filledEntries (r : Rule) (key : String) :
    Value.lookup key r.filledEntries = (r.dataEntries.lookup key).filter fun v => !v.isNull := by
  apply Value.lookup_withoutNulls
  have hkeys : r.dataEntries.map Prod.fst =
    ["id", "teamId", "type", "enabled", "order", "definition"] := rfl
  rw [hkeys]
  decide

end Rule

namespace Check

theorem choice_kind (k : RuleKind) : choice RuleKind.name RuleKind.all (.text k.name) = .valid k := by
  cases k with
  | ifThen => rfl
  | weight => rfl

/-- What a rule is written as, what it lacks left out, is read as the same rule. -/
theorem rule_toData (r : Rule) : rule r.toData.withoutNulls = .valid r := by
  have hdata : r.toData.withoutNulls = .map r.filledEntries := rfl
  have hid : Value.lookup "id" r.filledEntries = some (.text r.id) := r.lookup_filledEntries "id"
  have hteamId : Value.lookup "teamId" r.filledEntries = r.teamId.map .text := by
    have hentry : r.dataEntries.lookup "teamId" = some (.ofText? r.teamId) := rfl
    rw [r.lookup_filledEntries, hentry]
    cases r.teamId with
    | none => rfl
    | some t => rfl
  have htype : Value.lookup "type" r.filledEntries = some (.text r.kind.name) :=
    r.lookup_filledEntries "type"
  have henabled : Value.lookup "enabled" r.filledEntries = some (.bool r.enabled) :=
    r.lookup_filledEntries "enabled"
  have horder : Value.lookup "order" r.filledEntries = some (.int r.order) :=
    r.lookup_filledEntries "order"
  rw [hdata, rule_map_eq_valid_iff]
  refine ⟨?_, ?_, ?_, ?_, ?_, ?_⟩
  · exact required_singleton_eq_valid_iff.mpr ⟨_, hid, rfl⟩
  · exact optional_nullable_of_lookup hteamId
      (List.forall_mem_singleton.mpr (r.lookup_filledEntries "team_id")) fun s _ => ⟨rfl, rfl⟩
  · exact required_singleton_eq_valid_iff.mpr ⟨_, htype, choice_kind r.kind⟩
  · exact optional_singleton_eq_valid_iff.mpr (.inr ⟨_, henabled, rfl⟩)
  · exact optional_singleton_eq_valid_iff.mpr (.inr ⟨_, horder, rfl⟩)
  · have hdefinition : Value.lookup "definition" r.filledEntries =
        (some r.definition).filter fun v => !v.isNull := r.lookup_filledEntries "definition"
    rw [optional_singleton_eq_valid_iff, hdefinition, Option.filter_some]
    cases hnull : r.definition.isNull with
    | true => exact .inl ⟨rfl, Value.isNull_iff.mp hnull⟩
    | false => exact .inr ⟨_, rfl, rfl⟩

/-- A scorecard under the name of a team is read with that name. -/
theorem scorecard_withTeamId {es : Entries} {c : Scorecard} (h : scorecard (.map es) = .valid c)
    (t : String) :
    scorecard (.map (Value.withEntry "teamId" (.text t) es)) =
      .valid { c with teamId := some t } := by
  have hothers : ∀ {α : Type} {keys : List String} {default a : α} {read : Value → Checked α},
      "teamId" ∉ keys → optional keys default read es = .valid a →
        optional keys default read (Value.withEntry "teamId" (.text t) es) = .valid a :=
    fun hkeys h => (optional_congr (find?_withEntry_of_notMem hkeys (.text t) es)).trans h
  have hfind : find? (Value.withEntry "teamId" (.text t) es) ["teamId", "team_id"] =
      some ("teamId", .text t) := by
    rw [find?, Value.lookup_withEntry_self]
  obtain ⟨hid, -, hversion, hweights, hpenalties, henrichment, hbands, hdomains⟩ :=
    scorecard_map_eq_valid_iff.mp h
  exact scorecard_map_eq_valid_iff.mpr ⟨hothers (by decide) hid, optional_of_find? _ hfind rfl,
    hothers (by decide) hversion, hothers (by decide) hweights, hothers (by decide) hpenalties,
    hothers (by decide) henrichment, hothers (by decide) hbands, hothers (by decide) hdomains⟩

theorem team_map_eq_valid_iff {es : Entries} {t : Team} :
    team (.map es) = .valid t ↔
      required ["config"] scorecard es = .valid t.scorecard ∧
        optional ["rules"] [] (listOf rule) es = .valid t.rules := by
  simp only [team, record, Checked.andThen_valid, Checked.seq_eq_valid_iff,
    Checked.fmap_eq_valid_iff]
  constructor
  · rintro ⟨_, ⟨scorecard, hscorecard, rfl⟩, rules, hrules, rfl⟩
    exact ⟨hscorecard, hrules⟩
  · rintro ⟨hscorecard, hrules⟩
    exact ⟨_, ⟨_, hscorecard, rfl⟩, _, hrules, rfl⟩

end Check

theorem Team.repeatedIds_of_nodup {t : Team} (h : (t.rules.map Rule.id).Nodup) :
    t.repeatedIds = [] := by
  have hnone : ((t.rules.map Rule.id).filter fun id => 1 < (t.rules.map Rule.id).count id) = [] := by
    rw [List.filter_eq_nil_iff]
    intro id _
    rw [decide_eq_true_eq, Nat.not_lt]
    exact List.nodup_iff_count_le_one.mp h id
  unfold repeatedIds
  dsimp only
  rw [hnone, List.eraseDups_nil, List.mergeSort_nil]

/-! ## The document -/

namespace Defaults

/-- What a new team has: the scorecard and the rules that bear its name. -/
def team (t : String) : Team := ⟨{ scorecard with teamId := some t }, rules (some t)⟩

theorem isNormal_scorecard : scorecard.IsNormal where
  enrichment e he := by
    cases he
    exact ⟨⟨by decide +kernel, by decide +kernel⟩, ⟨by decide +kernel, by decide +kernel⟩⟩
  domains := List.forall_mem_nil _

/-- The entries of a team in the document. -/
def teamEntries (t : String) : List (String × Value) :=
  [("config", .map (Value.withEntry "teamId" (.text t) scorecard.filledEntries)),
    ("rules", .list ((rules (some t)).map fun r => r.toData.withoutNulls))]

theorem team_teamEntries (t : String) : Check.team (.ofTexts (teamEntries t)) = .valid (team t) := by
  have hscorecard : Check.scorecard (.map (Value.withEntry "teamId" (.text t)
      scorecard.filledEntries)) = .valid (team t).scorecard :=
    Check.scorecard_withTeamId isNormal_scorecard.scorecard_toData t
  have hrules : Check.listOf Check.rule (.list ((rules (some t)).map fun r =>
      r.toData.withoutNulls)) = .valid (team t).rules := by
    refine Check.listOf_eq_valid_iff.mpr ⟨_, rfl, ?_⟩
    rw [List.forall₂_map_left_iff]
    exact List.forall₂_same.mpr fun r _ => Check.rule_toData r
  exact Check.team_map_eq_valid_iff.mpr
    ⟨Check.required_singleton_eq_valid_iff.mpr ⟨_, rfl, hscorecard⟩,
      Check.optional_singleton_eq_valid_iff.mpr (.inr ⟨_, rfl, hrules⟩)⟩

/-- The document with the defaults for a team. -/
def documentOf (t : String) : Value :=
  .ofTexts [("version", .text "1.0"), ("teams", .map [(.text t, .ofTexts (teamEntries t))])]

theorem document_text (t : String) : document (.text t) = .ok (documentOf t) := rfl

/-- The document is a rulebook with that one team, whatever its name is. -/
theorem rulebook_documentOf (t : String) :
    Check.rulebook (documentOf t) = .valid ⟨"1.0", [(t, team t)]⟩ := by
  have hversion : Check.version (.text "1.0") = .valid "1.0" := by decide
  have hteams : Check.teams (.map [(.text t, .ofTexts (teamEntries t))]) = .valid [(t, team t)] :=
    Check.tableEntries_eq_valid_iff.mpr (.cons ⟨rfl, team_teamEntries t⟩ .nil)
  have hdraft : Check.draft (documentOf t) = .valid ⟨"1.0", [(t, team t)]⟩ := by
    refine Checked.andThen_eq_valid_iff.mpr ⟨_, rfl, ?_⟩
    simp only [Checked.seq_eq_valid_iff, Checked.fmap_eq_valid_iff]
    exact ⟨_, ⟨_, Check.required_singleton_eq_valid_iff.mpr ⟨_, rfl, hversion⟩, rfl⟩, _,
      Check.required_singleton_eq_valid_iff.mpr ⟨_, rfl, hteams⟩, rfl⟩
  have hids : ((team t).rules.map Rule.id).Nodup := by
    show ["high-budget", "decision-maker", "paid-search", "company-size"].Nodup
    decide
  have hrepetition : Check.repetition? [(t, team t)] = none := by
    simp [Check.repetition?, Team.repeatedIds_of_nodup hids]
  rw [Check.rulebook, hdraft, Checked.andThen_valid]
  simp only [hrepetition]
  rfl

end Defaults

/-! ## Evaluations -/

/-- No evaluation looks at the name of the team that a scorecard bears. -/
theorem Engine.evaluate_withTeamId (e : Engine) (cells : Cells) (lead rules : Value)
    (c : Scorecard) (t : Option String) :
    e.evaluate cells lead (.scorecard { c with teamId := t }) rules =
      e.evaluate cells lead (.scorecard c) rules := rfl

theorem Defaults.evaluate_team (t : String) (e : Engine) (cells : Cells) (lead : Value) :
    (team t).evaluate e cells lead =
      e.evaluate cells lead (.scorecard scorecard) (.list ((rules (some t)).map Rule.toValue)) :=
  e.evaluate_withTeamId cells lead _ scorecard (some t)

end Qualify
