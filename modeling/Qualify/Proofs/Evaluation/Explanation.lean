import Qualify.Proofs.BaseScore.Wording
import Qualify.Proofs.Evaluation

/-!
# The lines of an explanation

An explanation says one thing a line, and its lines are joined with line breaks between them.  So
its text has as many lines as there are things to say exactly when none of the texts that are
printed in it breaks a line itself.

Most of what is printed comes from a fixed stock or from the team: the keys of its tiers, the
reasons and names of its rules.  A lead has a say in all of that, in that it decides what is printed,
but one text alone is printed as the lead writes it, the job title.  It is as free to hold line
breaks as any other text, and with them to say what it likes on lines of its own
(`Engine.explanation_lines_iff`).
-/

namespace Qualify

open Text (IsOneLine)

/-! ## The reasons of rules -/

namespace Definition

/-- The reason that a definition gives for its points, whatever lead it gives them to. -/
def reasonText (d : Definition) (id : String) : Except Failure String :=
  match d with
  | ifThen _ _ reason => .ok ((givenReason reason).getD ("Rule " ++ id))
  | weight field _ reason =>
    match givenReason reason with
    | some r => .ok r
    | none => weightReason field

theorem reasonText_of_adjustment? {d : Definition} {id : String} {cells : Cells} {root : Value}
    {a : Adjustment} (h : d.adjustment? id cells root = .ok (some a)) :
    d.reasonText id = .ok a.reason := by
  cases d with
  | ifThen conditions adjust reason =>
      obtain ⟨holds, -, h⟩ := Except.bind_eq_ok_iff.mp h
      cases holds with
      | false => cases h
      | true =>
          obtain ⟨points, -, h⟩ := Except.bind_eq_ok_iff.mp h
          cases h
          rfl
  | weight field weights reason =>
      obtain ⟨v, -, h⟩ := Except.bind_eq_ok_iff.mp h
      obtain ⟨key, -, h⟩ := Except.bind_eq_ok_iff.mp h
      split at h
      · cases h
      · split at h
        · cases h
        · case h_2 x _ =>
            have hsteps : ((weight field weights reason).reasonText id >>= fun text => do
                let points ← x.toPoints
                return some ⟨text, points⟩) = Except.ok (some a) := by
              rw [← h]
              cases hreason : givenReason reason with
              | some r =>
                  simp only [reasonText, hreason]
                  rfl
              | none => simp only [reasonText, hreason]
            obtain ⟨text, htext, hpoints⟩ := Except.bind_eq_ok_iff.mp hsteps
            obtain ⟨points, -, hpoints⟩ := Except.bind_eq_ok_iff.mp hpoints
            cases hpoints
            exact htext

end Definition

theorem Outcome.verdict_of_adjustment? {o : Outcome} {a : Adjustment} (h : o.adjustment? = some a) :
    o.verdict = .applied a := by
  unfold Outcome.adjustment? at h
  split at h
  · case h_1 b hb =>
      cases h
      exact hb
  · cases h

theorem Rule.exists_reasonText {cells : Cells} {root : Value} {a : Adjustment} (r : Rule)
    (h : r.verdict cells root = .applied a) :
    ∃ d, r.readDefinition = .ok d ∧ d.reasonText r.id = .ok a.reason := by
  unfold Rule.verdict at h
  split at h
  · cases h
  · split at h
    · cases h
    · case h_2 d hd =>
        split at h
        · cases h
        · cases h
        · case h_3 b hb =>
            cases h
            exact ⟨d, hd, Definition.reasonText_of_adjustment? hb⟩

namespace Application

variable {cells : Cells} {root lead rules v : Value} {o : Outcome} {a : Adjustment} {base : Int}

/-- What a payload can have printed of itself: its name, and its reason if it is a rule. -/
inductive IsTextOf (v : Value) : String → Prop
  | ruleName {r : Rule} (h : ruleOf? v = some r) : IsTextOf v r.id
  | reason {r : Rule} {d : Definition} {s : String} (h : ruleOf? v = some r)
      (hd : r.readDefinition = .ok d) (hs : d.reasonText r.id = .ok s) : IsTextOf v s
  | name {o : Outcome} (h : malformed v = .ok o) : IsTextOf v (o.ruleId.getD "None")

/-- A payload is known by a text of its own, whatever becomes of it. -/
theorem isTextOf_ruleId (h : alone cells root v = .ok o) : IsTextOf v (o.ruleId.getD "None") := by
  cases hv : ruleOf? v with
  | some r =>
      rw [alone_of_rule hv] at h
      cases h
      exact .ruleName hv
  | none =>
      rw [alone_of_noRule (by rw [isRule, hv]; rfl)] at h
      exact .name h

/-- The reason of an adjustment is that of the rule, as it stands in the definition. -/
theorem isTextOf_reason (h : alone cells root v = .ok o) (ha : o.adjustment? = some a) :
    IsTextOf v a.reason := by
  cases hv : ruleOf? v with
  | some r =>
      rw [alone_of_rule hv] at h
      cases h
      obtain ⟨d, hd, hreason⟩ := r.exists_reasonText (Outcome.verdict_of_adjustment? ha)
      exact .reason hv hd hreason
  | none =>
      rw [alone_of_noRule (by rw [isRule, hv]; rfl)] at h
      rw [Outcome.isIdle_iff.mp (.inl ⟨_, verdict_of_malformed h⟩)] at ha
      cases ha

/-- Every outcome is that of one of the payloads. -/
theorem exists_alone_of_mem {app : Application} (h : ofRules cells lead rules base = .ok app)
    (ho : o ∈ app.outcomes) :
    ∃ vs v, items rules = .ok vs ∧ v ∈ vs ∧ alone cells (rootOf cells lead) v = .ok o := by
  obtain ⟨houtcomes, -⟩ := ofRules_eq_ok_iff.mp h
  cases hitems : items rules with
  | error f =>
      rw [outcomesOf, hitems] at houtcomes
      cases houtcomes
  | ok vs =>
      rw [outcomesOf_of_items hitems, List.mapM_eq_ok_iff_forall₂] at houtcomes
      obtain ⟨v, hv, halone⟩ := houtcomes.flip.exists_mem_of_mem ho
      exact ⟨vs, v, rfl, (arranged_perm vs).mem_iff.mp hv, halone⟩

end Application

/-! ## The lines -/

namespace Evaluation

variable {v : Evaluation}

/-- The explanation as one text. -/
def summary (v : Evaluation) : String := "\n".intercalate v.explanation

/-- What the lines of the summary are, when they are taken apart at the line breaks. -/
def lines (v : Evaluation) : List (List Char) := Text.splitOn '\n' v.summary.toList

/-- A line for the score, for the base score, for the components and for the tags; a heading and a
line for each entry of the trace, if there is one; and a line for all skipped rules, if there are
any. -/
def lineCount (v : Evaluation) : Nat :=
  4 + (if v.trace = [] then 0 else 1 + v.trace.length) + if v.skipped = [] then 0 else 1

theorem length_explanation (v : Evaluation) : v.explanation.length = v.lineCount := by
  unfold explanation lineCount
  simp only [List.length_append, List.isEmpty_iff, List.map_eq_nil_iff]
  congr 1
  · congr 1
    split
    · rfl
    · rw [List.length_cons, List.length_map, Nat.add_comm]
  · split
    · rfl
    · rfl

/-- The lines about scores are put together from fixed words and numbers. -/
theorem isOneLine_scores (v : Evaluation) :
    IsOneLine ("Score: " ++ toString v.score ++ " (" ++ v.band.name ++ ") - " ++
        v.band.description) ∧
      IsOneLine ("Base score: " ++ toString v.baseScore) ∧
      IsOneLine ("Components: " ++
        ", ".intercalate (v.components.entries.map fun c => c.1 ++ "=" ++ toString c.2)) := by
  have hband : IsOneLine v.band.name ∧ IsOneLine v.band.description := by
    cases v.band with
    | _ => decide
  have hnames : ∀ c ∈ v.components.entries, IsOneLine c.1 := by
    simp only [Components.entries, List.forall_mem_cons]
    decide
  have hglue : IsOneLine ", " := by decide
  simp only [Text.isOneLine_append, Text.isOneLine_toString, hband,
    Text.isOneLine_intercalate hglue, List.forall_mem_map, and_true]
  exact ⟨by decide, by decide, by decide, fun c hc => ⟨hnames c hc, by decide⟩⟩

theorem isOneLine_tags_iff (tags : List String) :
    IsOneLine ("Tags: " ++ if tags.isEmpty then "-" else ", ".intercalate tags) ↔
      ∀ t ∈ tags, IsOneLine t := by
  rw [Text.isOneLine_append, and_iff_right (by decide)]
  split
  · case isTrue hempty =>
      rw [List.isEmpty_iff.mp hempty]
      exact iff_of_true (by decide) (List.forall_mem_nil _)
  · exact Text.isOneLine_intercalate (by decide)

theorem forall_traceLines_iff (trace : List String) :
    (∀ line ∈ if (trace.map ("  - " ++ ·)).isEmpty then []
      else "Trace:" :: trace.map ("  - " ++ ·), IsOneLine line) ↔ ∀ t ∈ trace, IsOneLine t := by
  have hentry : ∀ t : String, IsOneLine ("  - " ++ t) ↔ IsOneLine t :=
    fun t => Text.isOneLine_append.trans (and_iff_right (by decide))
  split
  · case isTrue hempty =>
      rw [List.isEmpty_iff, List.map_eq_nil_iff] at hempty
      rw [hempty]
  · rw [List.forall_mem_cons, and_iff_right (by decide), List.forall_mem_map]
    exact forall₂_congr fun t _ => hentry t

theorem forall_skippedLine_iff (names : List String) :
    (∀ line ∈ if names.isEmpty then [] else ["Skipped rules: " ++ ", ".intercalate names],
      IsOneLine line) ↔ ∀ s ∈ names, IsOneLine s := by
  split
  · case isTrue hempty =>
      rw [List.isEmpty_iff.mp hempty]
  · rw [List.forall_mem_singleton, Text.isOneLine_append, and_iff_right (by decide)]
    exact Text.isOneLine_intercalate (by decide)

/-- Every line of the explanation is one line exactly if the tags, the trace and the names of the
skipped rules are. -/
theorem forall_explanation_iff (v : Evaluation) :
    (∀ line ∈ v.explanation, IsOneLine line) ↔
      (∀ t ∈ v.tags, IsOneLine t) ∧ (∀ t ∈ v.trace, IsOneLine t) ∧
        ∀ o ∈ v.skipped, IsOneLine (o.ruleId.getD "None") := by
  obtain ⟨hscore, hbase, hcomponents⟩ := isOneLine_scores v
  unfold explanation
  rw [List.forall_mem_append, List.forall_mem_append, forall_traceLines_iff,
    forall_skippedLine_iff, List.forall_mem_map]
  simp only [List.forall_mem_cons, hscore, hbase, hcomponents, true_and, isOneLine_tags_iff]
  simp only [List.not_mem_nil, false_implies, implies_true, and_true, and_assoc]

theorem explanation_ne_nil (v : Evaluation) : v.explanation.map String.toList ≠ [] := by
  rw [Ne, List.map_eq_nil_iff, ← List.length_eq_zero_iff, length_explanation, lineCount]
  omega

theorem lines_eq (v : Evaluation) :
    v.lines = Text.splitOn '\n' (['\n'].intercalate (v.explanation.map String.toList)) := by
  rw [lines, summary, String.toList_intercalate]
  rfl

/-- A line of the explanation makes as many lines as there are pieces between its line breaks. -/
theorem lines_eq_flatMap (v : Evaluation) :
    v.lines = v.explanation.flatMap fun line => Text.splitOn '\n' line.toList := by
  rw [lines_eq, Text.splitOn_intercalate '\n' v.explanation_ne_nil, List.flatMap_map]

/-- The summary has a line for each line of the explanation if these stay on their lines, and then
they can be read off it. -/
theorem lines_iff (v : Evaluation) :
    (v.lines.length = v.lineCount ↔ ∀ line ∈ v.explanation, IsOneLine line) ∧
      ((∀ line ∈ v.explanation, IsOneLine line) → v.lines = v.explanation.map String.toList) := by
  have hall : (∀ l ∈ v.explanation.map String.toList, '\n' ∉ l) ↔
      ∀ line ∈ v.explanation, IsOneLine line := List.forall_mem_map
  have hsplit := Text.splitOn_intercalate_iff '\n' v.explanation_ne_nil
  rw [hall, ← lines_eq, List.length_map, length_explanation] at hsplit
  exact hsplit

end Evaluation

/-! ## What is printed -/

theorem BaseScore.keepsLines_ofValue_iff {tables : DomainTables} {cells : Cells} {v : Value}
    {c : Scorecard} {b : BaseScore} (h : ofValue tables cells v c = .ok b) :
    b.KeepsLines ↔ ∀ l, Lead.ofValue? cells v = some l →
      (∀ title, l.PrintsTitle c title → IsOneLine title) ∧
        ∀ key, l.IsEnrichedBy c key → IsOneLine key := by
  unfold ofValue at h
  split at h
  · case h_1 l hl =>
      rw [keepsLines_iff h]
      exact ⟨fun hkeeps l' hl' => Option.some.inj (hl.symm.trans hl') ▸ hkeeps, fun h => h l hl⟩
  · case h_2 hnone =>
      cases h
      refine iff_of_true (keepsLines_ofNoLead v) fun l hl => ?_
      rw [hnone] at hl
      cases hl

theorem isOneLine_kind (f : Failure) : IsOneLine f.kind := by
  unfold Failure.kind
  split
  all_goals decide

namespace Engine

variable {e : Engine} {cells : Cells} {lead config rules : Value} {t : String}

/-- The evaluation is of this lead, under this scorecard, and goes through. -/
def Evaluates (e : Engine) (cells : Cells) (lead config rules : Value) (l : Lead) (c : Scorecard) :
    Prop :=
  Lead.ofValue? cells lead = some l ∧ Scorecard.ofValue? config = some c ∧
    ∃ b, e.Completes cells lead c rules b (e.evaluate cells lead config rules)

/-- The lead's job title, where the evaluation prints it. -/
def PrintsTitle (e : Engine) (cells : Cells) (lead config rules : Value) (title : String) : Prop :=
  ∃ l c, e.Evaluates cells lead config rules l c ∧ l.PrintsTitle c title

/-- The texts that an evaluation prints beside fixed words and numbers. -/
inductive Prints (e : Engine) (cells : Cells) (lead config rules : Value) : String → Prop
  | title {title : String} (h : e.PrintsTitle cells lead config rules title) :
      Prints e cells lead config rules title
  | tier {l : Lead} {c : Scorecard} {key : String} (h : e.Evaluates cells lead config rules l c)
      (hkey : l.IsEnrichedBy c key) : Prints e cells lead config rules key
  | reason {a : Adjustment} (h : a ∈ (e.evaluate cells lead config rules).adjustments) :
      Prints e cells lead config rules a.reason
  | skipped {o : Outcome} (h : o ∈ (e.evaluate cells lead config rules).skipped) :
      Prints e cells lead config rules (o.ruleId.getD "None")

/-- The texts that a team may have printed, whoever the lead is. -/
inductive IsTeamText (config rules : Value) : String → Prop
  | tier {c : Scorecard} {e : Enrichment} {key : String} (hc : Scorecard.ofValue? config = some c)
      (he : c.enrichment = some e)
      (hkey : (e.companySize.get? key).isSome ∨ (e.industry.get? key).isSome) :
      IsTeamText config rules key
  | rule {vs : List Value} {v : Value} {s : String} (hitems : Application.items rules = .ok vs)
      (hv : v ∈ vs) (hs : Application.IsTextOf v s) : IsTeamText config rules s

theorem isOneLine_text_iff (a : Adjustment) : IsOneLine a.text ↔ IsOneLine a.reason := by
  unfold Adjustment.text
  rw [Text.isOneLine_append, Text.isOneLine_append, Text.isOneLine_append]
  constructor
  · exact fun h => h.1.1.1
  · exact fun h => ⟨⟨⟨h, by decide⟩, Text.isOneLine_signedText a.delta⟩, by decide⟩

theorem keepsLines_of_completes {c : Scorecard} {b : BaseScore} {v : Evaluation}
    (h : e.Completes cells lead c rules b v) (htags : ∀ t ∈ v.tags, IsOneLine t)
    (htrace : ∀ t ∈ v.trace, IsOneLine t) : b.KeepsLines := by
  constructor
  · rw [← h.tags]
    exact htags
  · rw [h.trace, List.forall_mem_append] at htrace
    exact htrace.1

/-- An evaluation keeps to its lines exactly if all that it prints does. -/
theorem forall_prints_iff (e : Engine) (cells : Cells) (lead config rules : Value) :
    (∀ line ∈ (e.evaluate cells lead config rules).explanation, IsOneLine line) ↔
      ∀ t, e.Prints cells lead config rules t → IsOneLine t := by
  rw [Evaluation.forall_explanation_iff]
  constructor
  · rintro ⟨htags, htrace, hskipped⟩ t ht
    cases ht with
    | title h =>
        obtain ⟨l, c, ⟨hl, -, b, hb⟩, htitle⟩ := h
        have hkeeps := keepsLines_of_completes hb htags htrace
        exact ((BaseScore.keepsLines_ofValue_iff hb.base).mp hkeeps l hl).1 _ htitle
    | tier h hkey =>
        obtain ⟨hl, -, b, hb⟩ := h
        have hkeeps := keepsLines_of_completes hb htags htrace
        exact ((BaseScore.keepsLines_ofValue_iff hb.base).mp hkeeps _ hl).2 _ hkey
    | @reason a ha =>
        have hmem : a.text ∈ (e.evaluate cells lead config rules).trace :=
          List.mem_append_right _ (List.mem_map_of_mem ha)
        exact (isOneLine_text_iff a).mp (htrace _ hmem)
    | skipped ho => exact hskipped _ ho
  · intro h
    have hskipped : ∀ o ∈ (e.evaluate cells lead config rules).skipped,
        IsOneLine (o.ruleId.getD "None") := fun o ho => h _ (.skipped ho)
    rw [← and_assoc, and_iff_left hskipped]
    obtain ⟨k, hkind⟩ := e.exists_isOfKind cells lead config rules
    cases k with
    | unconfigured =>
        rw [hkind.2.tags, hkind.2.trace]
        exact ⟨by decide, List.forall_mem_nil _⟩
    | degraded =>
        obtain ⟨c, f, -, -, htells⟩ := hkind
        rw [htells.tags, htells.trace, List.forall_mem_singleton, List.forall_mem_singleton]
        exact ⟨by decide, Text.isOneLine_append.mpr ⟨by decide, isOneLine_kind f⟩⟩
    | completed =>
        obtain ⟨c, b, hc, hb⟩ := hkind
        have hkeeps : b.KeepsLines := by
          refine (BaseScore.keepsLines_ofValue_iff hb.base).mpr fun l hl => ⟨?_, ?_⟩
          · exact fun title htitle => h title (.title ⟨l, c, ⟨hl, hc, b, hb⟩, htitle⟩)
          · exact fun key hkey => h key (.tier ⟨hl, hc, b, hb⟩ hkey)
        rw [hb.tags, hb.trace, List.forall_mem_append, List.forall_mem_map]
        refine ⟨hkeeps.tags, hkeeps.trace, fun a ha => ?_⟩
        exact (isOneLine_text_iff a).mpr (h a.reason (.reason ha))

/-- Every outcome of an evaluation is that of one of the payloads. -/
theorem exists_alone_of_mem_outcomes {o : Outcome}
    (ho : o ∈ (e.evaluate cells lead config rules).outcomes) :
    ∃ vs v, Application.items rules = .ok vs ∧ v ∈ vs ∧
      Application.alone cells (Application.rootOf cells lead) v = .ok o := by
  obtain ⟨base, a, ha, ho⟩ := exists_ofRules_of_mem_outcomes ho
  exact Application.exists_alone_of_mem ha ho

/-- Whatever an evaluation prints, it is the lead's title or a text of the team's. -/
theorem printsTitle_or_isTeamText (h : e.Prints cells lead config rules t) :
    e.PrintsTitle cells lead config rules t ∨ IsTeamText config rules t := by
  cases h with
  | title h => exact .inl h
  | tier h hkey =>
      obtain ⟨-, hc, -⟩ := h
      obtain ⟨n, hn, ⟨s, -, -, hkey⟩ | ⟨s, -, -, hkey⟩⟩ := hkey
      · exact .inr (.tier hc hn (.inl hkey))
      · exact .inr (.tier hc hn (.inr hkey))
  | reason ha =>
      obtain ⟨o, ho, ha⟩ := List.mem_filterMap.mp ha
      obtain ⟨vs, v, hitems, hv, halone⟩ := exists_alone_of_mem_outcomes ho
      exact .inr (.rule hitems hv (Application.isTextOf_reason halone ha))
  | skipped ho =>
      obtain ⟨vs, v, hitems, hv, halone⟩ :=
        exists_alone_of_mem_outcomes (List.mem_filter.mp ho).1
      exact .inr (.rule hitems hv (Application.isTextOf_ruleId halone))

/-- An explanation has one line for each thing that it says exactly if no text that it prints breaks
a line, and then these are its lines.  Where the team breaks none, that is up to one text in the
lead, its job title. -/
theorem explanation_lines_iff (e : Engine) (cells : Cells) (lead config rules : Value) :
    let v := e.evaluate cells lead config rules
    (v.lines.length = v.lineCount ↔ ∀ t, e.Prints cells lead config rules t → IsOneLine t) ∧
      (v.lines.length = v.lineCount → v.lines = v.explanation.map String.toList) ∧
      ((∀ t, IsTeamText config rules t → IsOneLine t) → (v.lines.length = v.lineCount ↔
        ∀ title, e.PrintsTitle cells lead config rules title → IsOneLine title)) := by
  intro v
  obtain ⟨hcount, hlines⟩ := v.lines_iff
  have hprints := hcount.trans (forall_prints_iff e cells lead config rules)
  refine ⟨hprints, fun h => hlines (hcount.mp h), fun hteam => hprints.trans ⟨?_, ?_⟩⟩
  · exact fun h title htitle => h title (.title htitle)
  · intro h t ht
    rcases printsTitle_or_isTeamText ht with htitle | htext
    · exact h t htitle
    · exact hteam t htext

/-- A lead with a title that goes on after a line break as the line about skipped rules does. -/
def forgingLead : Value :=
  .map [(.text "fields", .map [(.text "title", .text "CEO\nSkipped rules: audit")])]

def roleConfig : Value := .map [(.text "weights", .map [(.text "jobRole", .int 45)])]

theorem explanation_forgingLead :
    let v := evaluate {} [] forgingLead roleConfig (.list [])
    v.lineCount = 6 ∧ v.lines.length = 7 ∧ v.skipped = [] := by
  have hv : evaluate {} [] forgingLead roleConfig (.list []) =
      { score := 45, tags := [Tag.executive], components := { jobRole := 45 }, baseScore := 45
        baseTrace := ["Job role 'CEO\nSkipped rules: audit' matched executive tier (+45)"] } := by
    decide +kernel
  rw [hv]
  refine ⟨rfl, ?_, rfl⟩
  rw [Evaluation.lines_eq_flatMap]
  decide +kernel

end Engine

end Qualify
