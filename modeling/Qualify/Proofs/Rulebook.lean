import Qualify.Proofs.Check.Change
import Qualify.Rulebook

/-!
# What a rulebook takes from its document

No reader looks into the definition of a rule.  So a document with another definition in it is
accepted if and only if the document is, and the rulebook is the same but for that definition.
`Check.rulebook_withDefinition` says so, together with what holds of every rulebook that is
accepted.
-/

namespace Qualify

/-! ## Changing a definition -/

/-- A rule as given in a document, with another definition. -/
def Value.withDefinition (d : Value) : Value → Value
  | .map es => .map (withEntry "definition" d es)
  | .rule id teamId kind enabled order _ => .rule id teamId kind enabled order d
  | v => v

/-- A document with another definition in one of its rules: the entry of its team among the teams
and its place among the rules of the team tell which. -/
def Value.withRuleDefinition (doc : Value) (team rule : Nat) (d : Value) : Value :=
  atKey "teams" (atEntry team (atKey "rules" (atMember rule (withDefinition d)))) doc

/-- The name of the team that the entry at a place among the teams of a document gives. -/
def Value.teamName? (doc : Value) (team : Nat) : Option String :=
  (doc.get? "teams").bind fun v => v.entries?.bind fun es => Check.rowName? es team

def Rule.withDefinition (d : Value) (r : Rule) : Rule := { r with definition := d }

def Team.withDefinition (rule : Nat) (d : Value) (t : Team) : Team :=
  { t with rules := t.rules.modify rule (Rule.withDefinition d) }

/-- A rulebook with another definition of one rule of the team of a name, if there is one. -/
def Rulebook.withDefinition (name : Option String) (rule : Nat) (d : Value) (b : Rulebook) :
    Rulebook :=
  { b with teams := Check.changeRow name (Team.withDefinition rule d) b.teams }

namespace Check

theorem rule_map (es : Entries) :
    rule (.map es) = (Rule.mk <$> required ["id"] identifier es <*>
      optional ["teamId", "team_id"] none (nullable identifier) es <*>
      required ["type"] (choice RuleKind.name RuleKind.all) es <*>
      optional ["enabled"] true boolean es <*> optional ["order"] 0 integer es <*>
      optional ["definition"] .null .valid es) := rfl

/-- No reader looks into a definition. -/
theorem carries_rule (d : Value) :
    Carries rule (Value.withDefinition d) (Rule.withDefinition d) := by
  intro v
  cases v with
  | map es =>
      have hdefinition : ∃ w, optional ["definition"] Value.null .valid es = .valid w := by
        rw [optional]
        cases find? es ["definition"] with
        | none => exact ⟨_, rfl⟩
        | some e => exact ⟨_, rfl⟩
      obtain ⟨w, hw⟩ := hdefinition
      have hchanged : optional ["definition"] Value.null .valid
          (Value.withEntry "definition" d es) = .valid d := by
        unfold optional find?
        rw [Value.lookup_withEntry_self]
        rfl
      have hfind (keys : List String) (h : "definition" ∉ keys) :=
        find?_withEntry_of_notMem h d es
      rw [Value.withDefinition, rule_map, rule_map, hw, hchanged,
        required_congr (hfind ["id"] (by decide)),
        optional_congr (hfind ["teamId", "team_id"] (by decide)),
        required_congr (hfind ["type"] (by decide)),
        optional_congr (hfind ["enabled"] (by decide)),
        optional_congr (hfind ["order"] (by decide))]
      refine Checked.seq_valid_map fun join hjoin => ?_
      simp only [Checked.seq_eq_valid_iff, Checked.fmap_eq_valid_iff] at hjoin
      obtain ⟨_, ⟨_, ⟨_, ⟨_, ⟨id, -, rfl⟩, teamId, -, rfl⟩, kind, -, rfl⟩, enabled, -, rfl⟩,
        order, -, rfl⟩ := hjoin
      rfl
  | rule => rfl
  | _ => rfl

theorem carries_team (i : Nat) (d : Value) :
    Carries team (Value.atKey "rules" (Value.atMember i (Value.withDefinition d)))
      (Team.withDefinition i d) := by
  intro v
  cases v with
  | map es =>
      have hconfig : required ["config"] scorecard (Value.changeKey "rules" _ es) =
          required ["config"] scorecard es :=
        required_congr (find?_changeKey_of_notMem (by decide)
          (Value.atMember i (Value.withDefinition d)) es)
      have hrules : optional ["rules"] [] (listOf rule) (Value.changeKey "rules" _ es) =
          (optional ["rules"] [] (listOf rule) es).map _ :=
        optional_changeKey (List.modify_nil _ _) ((carries_rule d).listOf i)
      rw [Value.atKey, team, team, record, record, Checked.andThen_valid, Checked.andThen_valid,
        hconfig, hrules]
      exact Checked.seq_map_right fun scorecard rules => rfl
  | _ => rfl

/-- What a change of a team's entry changes is the team of that name. -/
theorem teams_atEntry (i j : Nat) (d : Value) (v : Value) :
    teams (v.atEntry i (Value.atKey "rules" (Value.atMember j (Value.withDefinition d)))) =
      (teams v).map (changeRow (v.entries?.bind fun es => rowName? es i)
        (Team.withDefinition j d)) := by
  cases v with
  | map es => exact tableEntries_modify (carries_team j d) es i
  | _ => rfl

theorem draft_withRuleDefinition (doc d : Value) (i j : Nat) :
    draft (doc.withRuleDefinition i j d) =
      (draft doc).map (Rulebook.withDefinition (doc.teamName? i) j d) := by
  cases doc with
  | map es =>
      have hversion : required ["version"] version (Value.changeKey "teams" (Value.atEntry i
          (Value.atKey "rules" (Value.atMember j (Value.withDefinition d)))) es) =
            required ["version"] version es :=
        required_congr (find?_changeKey_of_notMem (by decide) _ es)
      have hteams : ∀ v, Value.lookup "teams" es = some v →
          teams (v.atEntry i (Value.atKey "rules" (Value.atMember j (Value.withDefinition d)))) =
            (teams v).map (changeRow ((Value.map es).teamName? i) (Team.withDefinition j d)) := by
        intro v hv
        have hname : (Value.map es).teamName? i = v.entries?.bind fun es => rowName? es i := by
          rw [Value.teamName?, Value.get?, Value.entries?, Option.bind_some, hv, Option.bind_some]
        rw [hname]
        exact teams_atEntry i j d v
      rw [Value.withRuleDefinition, Value.atKey, draft, draft, record, record,
        Checked.andThen_valid, Checked.andThen_valid, hversion, required_changeKey hteams]
      exact Checked.seq_map_right fun version teams => rfl
  | _ => rfl

end Check

namespace Team

/-- Another definition does not change the names of the rules. -/
theorem repeatedIds_withDefinition (j : Nat) (d : Value) (t : Team) :
    (t.withDefinition j d).repeatedIds = t.repeatedIds := by
  have hids : (t.withDefinition j d).rules.map Rule.id = t.rules.map Rule.id := by
    rw [withDefinition]
    dsimp only
    refine List.ext_getElem? fun n => ?_
    rw [List.getElem?_map, List.getElem?_map, List.getElem?_modify]
    cases t.rules[n]? with
    | none => rfl
    | some r =>
        by_cases hj : j = n
        · simp [hj, Rule.withDefinition]
        · simp [hj]
  rw [repeatedIds, repeatedIds, hids]

/-- If there are no names that more than one rule has, the names are all different. -/
theorem nodup_ids {t : Team} (h : t.repeatedIds = []) : (t.rules.map Rule.id).Nodup := by
  have hfilter :
      (t.rules.map Rule.id).filter (fun id => 1 < (t.rules.map Rule.id).count id) = [] := by
    refine List.eq_nil_iff_forall_not_mem.mpr fun id hid => ?_
    have hmem : id ∈ t.repeatedIds := by
      rw [repeatedIds, List.mem_mergeSort, List.mem_eraseDups]
      exact hid
    rw [h] at hmem
    cases hmem
  rw [List.nodup_iff_count_le_one]
  intro id
  by_cases hid : id ∈ t.rules.map Rule.id
  · simpa using List.filter_eq_nil_iff.mp hfilter id hid
  · rw [List.count_eq_zero_of_not_mem hid]
    exact Nat.zero_le 1

end Team

namespace Check

theorem repetition?_changeRow (name : Option String) (j : Nat) (d : Value)
    (ts : List (String × Team)) :
    repetition? (changeRow name (Team.withDefinition j d) ts) = repetition? ts := by
  have hrow : ∀ t : String × Team,
      (if name = some t.1 then (t.1, t.2.withDefinition j d) else t).1 = t.1 ∧
      (if name = some t.1 then (t.1, t.2.withDefinition j d) else t).2.repeatedIds =
        t.2.repeatedIds := by
    intro t
    split
    · exact ⟨rfl, Team.repeatedIds_withDefinition j d t.2⟩
    · exact ⟨rfl, rfl⟩
  rw [repetition?, repetition?, changeRow, List.find?_map, Option.map_map]
  simp only [Function.comp_def, hrow]

/-- A document with another definition is read as the document is, but for that definition. -/
theorem rulebook_eq_map (doc d : Value) (i j : Nat) :
    rulebook (doc.withRuleDefinition i j d) =
      (rulebook doc).map (Rulebook.withDefinition (doc.teamName? i) j d) := by
  rw [rulebook, rulebook, draft_withRuleDefinition]
  refine Checked.andThen_map fun b => ?_
  have hempty : (b.withDefinition (doc.teamName? i) j d).teams.isEmpty = b.teams.isEmpty :=
    List.isEmpty_map
  have hrepetition : repetition? (b.withDefinition (doc.teamName? i) j d).teams =
      repetition? b.teams := repetition?_changeRow _ j d b.teams
  rw [hempty, hrepetition]
  split
  · rfl
  · split <;> rfl

end Check

/-! ## What is accepted -/

/-- The rules of a team as given, none if there is no list of them. -/
def Value.rules? (v : Value) : Option (List Value) :=
  match v.get? "rules" with
  | none => some []
  | some w => w.members?

/-- A rule as given in a document is this rule, whose name is the text of what it is called
there. -/
structure Rule.IsReadFrom (r : Rule) (v : Value) : Prop where
  read : Check.rule v = .valid r
  id : v = r.toValue ∨ ∃ w, v.get? "id" = some w ∧ w.toText = .ok r.id

/-- Digits, a point and digits. -/
def IsDottedVersion (s : String) : Prop :=
  ∃ whole part : List Char, s.toList = whole ++ '.' :: part ∧ whole ≠ [] ∧ part ≠ [] ∧
    ∀ c ∈ whole ++ part, Text.isDecimalDigit c

/-- What holds of a rulebook that is read from a document. -/
structure Rulebook.IsReadFrom (b : Rulebook) (doc : Value) : Prop where
  version : IsDottedVersion b.version
  nonempty : b.teams ≠ []
  /-- No two teams have one name. -/
  names : (b.teams.map Prod.fst).Nodup
  /-- No two rules of a team have one name. -/
  ids : ∀ t ∈ b.teams, (t.2.rules.map Rule.id).Nodup
  /-- Each team is given by an entry of the document and has the rules given there, in their
  order. -/
  order : ∀ t ∈ b.teams, ∃ es i k v xs, doc.get? "teams" = some (.map es) ∧
    es[i]? = some (k, v) ∧ doc.teamName? i = some t.1 ∧ v.rules? = some xs ∧
    List.Forall₂ (fun x r => Rule.IsReadFrom r x) xs t.2.rules

namespace Check

theorem isDottedVersion_of_isVersion {s : String} (h : isVersion s.toList) :
    IsDottedVersion s := by
  unfold isVersion at h
  split at h
  · case h_1 part hrest =>
      simp only [Bool.and_eq_true, Bool.not_eq_true', List.all_eq_true] at h
      obtain ⟨⟨hhead, hpart⟩, hdigits⟩ := h
      refine ⟨s.toList.takeWhile Text.isDecimalDigit, part, ?_, ?_, ?_, ?_⟩
      · rw [← hrest, List.takeWhile_append_dropWhile]
      · cases hs : s.toList with
        | nil => simp [hs] at hhead
        | cons c cs =>
            have hc : Text.isDecimalDigit c := by simpa [hs] using hhead
            rw [List.takeWhile_cons_of_pos hc]
            exact List.cons_ne_nil _ _
      · simpa using hpart
      · intro c hc
        rcases List.mem_append.mp hc with hc | hc
        · exact List.all_eq_true.mp List.all_takeWhile c hc
        · exact hdigits c hc
  · cases h

theorem isDottedVersion {v : Value} {s : String} (h : version v = .valid s) :
    IsDottedVersion s := by
  obtain ⟨t, -, h⟩ := Checked.andThen_eq_valid_iff.mp h
  split at h
  · case isTrue hversion =>
      cases h
      exact isDottedVersion_of_isVersion hversion
  · cases h

theorem isReadFrom_rule {v : Value} {r : Rule} (h : rule v = .valid r) : r.IsReadFrom v := by
  refine ⟨h, ?_⟩
  cases v with
  | map es =>
      obtain ⟨hid, -⟩ := rule_map_eq_valid_iff.mp h
      obtain ⟨w, hlookup, hw⟩ := required_singleton_eq_valid_iff.mp hid
      exact .inr ⟨w, hlookup, (identifier_eq_valid_iff.mp hw).2⟩
  | rule =>
      cases h
      exact .inl rfl
  | _ => cases h

/-- A team has the rules that are given for it, in their order. -/
theorem exists_rules?_of_team {v : Value} {t : Team} (h : team v = .valid t) :
    ∃ xs, v.rules? = some xs ∧ List.Forall₂ (fun x r => Rule.IsReadFrom r x) xs t.rules := by
  obtain ⟨es, hes, h⟩ := Checked.andThen_eq_valid_iff.mp h
  obtain rfl := record_eq_valid_iff.mp hes
  obtain ⟨_, hconfig, rules, hrules, h⟩ := Checked.seq_eq_valid_iff.mp h
  obtain ⟨c, -, rfl⟩ := Checked.fmap_eq_valid_iff.mp hconfig
  subst h
  have hget : (Value.map es).get? "rules" = Value.lookup "rules" es := rfl
  unfold Value.rules?
  rw [hget]
  rcases optional_singleton_eq_valid_iff.mp hrules with ⟨hnone, rfl⟩ | ⟨w, hsome, hw⟩
  · rw [hnone]
    exact ⟨[], rfl, .nil⟩
  · obtain ⟨xs, hxs, hrules⟩ := listOf_eq_valid_iff.mp hw
    rw [hsome]
    exact ⟨xs, hxs, hrules.imp fun x r => isReadFrom_rule⟩

theorem repeatedIds_of_repetition? {ts : List (String × Team)} (h : repetition? ts = none) :
    ∀ t ∈ ts, t.2.repeatedIds = [] := by
  rw [repetition?, Option.map_eq_none_iff, List.find?_eq_none] at h
  intro t ht
  simpa using h t ht

theorem draft_eq_valid {doc : Value} {b : Rulebook} (h : draft doc = .valid b) :
    IsDottedVersion b.version ∧ ∃ v, doc.get? "teams" = some v ∧ teams v = .valid b.teams := by
  obtain ⟨es, hes, h⟩ := Checked.andThen_eq_valid_iff.mp h
  obtain rfl := record_eq_valid_iff.mp hes
  obtain ⟨_, hversion, ts, hteams, hb⟩ := Checked.seq_eq_valid_iff.mp h
  obtain ⟨s, hs, rfl⟩ := Checked.fmap_eq_valid_iff.mp hversion
  subst hb
  obtain ⟨u, -, hu⟩ := required_singleton_eq_valid_iff.mp hs
  exact ⟨isDottedVersion hu, required_singleton_eq_valid_iff.mp hteams⟩

/-- What is accepted is a rulebook that the document gives. -/
theorem isReadFrom_rulebook {doc : Value} {b : Rulebook} (h : rulebook doc = .valid b) :
    b.IsReadFrom doc := by
  obtain ⟨b, hdraft, h⟩ := Checked.andThen_eq_valid_iff.mp h
  split at h
  · cases h
  · case isFalse hempty =>
      split at h
      · cases h
      · case h_2 hrepetition =>
          cases h
          obtain ⟨hversion, v, hget, hteams⟩ := draft_eq_valid hdraft
          cases v with
          | map es =>
              obtain ⟨hnames, hrows⟩ := rows_of_tableEntries hteams
              constructor
              case version => exact hversion
              case nonempty => exact fun hnil => hempty (List.isEmpty_iff.mpr hnil)
              case names => exact hnames
              case ids =>
                exact fun t ht => Team.nodup_ids (repeatedIds_of_repetition? hrepetition t ht)
              case order =>
                intro t ht
                obtain ⟨i, k, w, hi, hname, hw⟩ := hrows t ht
                obtain ⟨xs, hxs, hrules⟩ := exists_rules?_of_team hw
                have hteam : doc.teamName? i = some t.1 := by
                  rw [Value.teamName?, hget, Option.bind_some, Value.entries?, Option.bind_some,
                    hname]
                exact ⟨es, i, k, w, xs, hget, hi, hteam, hxs, hrules⟩
          | _ => cases hteams

/-- Every document with another definition of a rule is accepted if and only if the document is, and
then the rulebooks are the same but for that definition: it is the definition of the rule at the
same place in the team that the entry gives.  Every rulebook that is accepted has a version in
digits and at least one team, no two rules of a team have one name, and each team has its rules in
the order of the document. -/
theorem rulebook_withDefinition (doc d : Value) (i j : Nat) :
    ((∃ b, rulebook (doc.withRuleDefinition i j d) = .valid b) ↔ ∃ b, rulebook doc = .valid b) ∧
    ∀ b, rulebook doc = .valid b →
      rulebook (doc.withRuleDefinition i j d) = .valid (b.withDefinition (doc.teamName? i) j d) ∧
      b.IsReadFrom doc := by
  rw [rulebook_eq_map]
  refine ⟨?_, fun b hb => ⟨by rw [hb, Checked.map_valid], isReadFrom_rulebook hb⟩⟩
  cases rulebook doc with
  | valid b => simp
  | invalid ps => simp

/-! A document of two entries with one name, of which the second one counts, and a rule whose name
is a number. -/

namespace OneTeam

def ruleData (id definition : Value) : Value :=
  .map [(.text "id", id), (.text "type", .text "WEIGHT"), (.text "definition", definition)]

def documentWith (definition : Value) : Value :=
  .map [(.text "version", .text "2.10"),
    (.text "teams", .map
      [(.int 1, .null),
       (.text "1", .map [(.text "config", .map []),
        (.text "rules", .list [ruleData (.int 7) definition, ruleData (.text "a") .null])])])]

theorem withRuleDefinition_documentWith (d d' : Value) :
    (documentWith d).withRuleDefinition 1 0 d' = documentWith d' := rfl

end OneTeam

open OneTeam in
theorem rulebook_withDefinition_oneTeam :
    ∃ b, rulebook (documentWith .null) = .valid b ∧
      (b.teams.map fun t => (t.1, t.2.rules.map Rule.id)) = [("1", ["7", "a"])] ∧
      rulebook (documentWith (.bool true)) =
        .valid (b.withDefinition ((documentWith .null).teamName? 1) 0 (.bool true)) ∧
      (documentWith .null).teamName? 1 = some "1" ∧ (documentWith .null).teamName? 0 = none ∧
      b.IsReadFrom (documentWith .null) := by
  have hnames : (rulebook (documentWith .null)).result?.map
      (fun b => b.teams.map fun t => (t.1, t.2.rules.map Rule.id)) = some [("1", ["7", "a"])] := by
    decide +kernel
  obtain ⟨b, hresult, hb⟩ := Option.map_eq_some_iff.mp hnames
  have hrulebook := Checked.result?_eq_some_iff.mp hresult
  obtain ⟨hchanged, hread⟩ := (rulebook_withDefinition (documentWith .null) (.bool true) 1 0).2 b
    hrulebook
  rw [withRuleDefinition_documentWith] at hchanged
  exact ⟨b, hrulebook, hb, hchanged, by decide +kernel, by decide +kernel, hread⟩

end Check

end Qualify
