import Qualify.Command.Run
import Qualify.Proofs.Check.Change
import Qualify.Proofs.Scorecard.Written
import Qualify.Proofs.Yaml.Raw

/-!
# Validating a scorecard once more

The command that validates a file looks at the scorecard of every team a second time, as the data
that it is written as.  Nothing new can come of that: what was read once is read again as the same
scorecard (`Scorecard.revalidation`).  All that is left to be said is which sections it lacks.
-/

namespace Qualify

namespace Check

variable {v : Value} {es : Entries}

theorem isRaw_of_find? {keys : List String} {key : String} (h : ∀ e ∈ es, e.2.IsRaw)
    (hfind : find? es keys = some (key, v)) : v.IsRaw := by
  induction keys with
  | nil => cases hfind
  | cons k keys ih =>
      rw [find?] at hfind
      split at hfind
      case h_1 w hlookup =>
        cases hfind
        exact .of_lookup h hlookup
      case h_2 => exact ih hfind

/-- What is read as a scorecard is one already, or a mapping. -/
theorem eq_scorecard_or_map {c : Scorecard} (h : scorecard v = .valid c) :
    v = .scorecard c ∨ ∃ es, v = .map es := by
  unfold scorecard at h
  split at h
  · cases h
    exact .inl rfl
  · obtain ⟨es, hes, -⟩ := Checked.andThen_eq_valid_iff.mp h
    exact .inr ⟨es, record_eq_valid_iff.mp hes⟩

/-- The scorecard of a team in raw data is read from a mapping. -/
theorem exists_map_of_team {t : Team} (hraw : v.IsRaw) (h : team v = .valid t) :
    ∃ es, scorecard (.map es) = .valid t.scorecard := by
  simp only [team, Checked.andThen_eq_valid_iff, Checked.seq_eq_valid_iff,
    Checked.fmap_eq_valid_iff, record_eq_valid_iff] at h
  obtain ⟨es, rfl, _, ⟨c, hc, rfl⟩, rules, -, rfl⟩ := h
  obtain ⟨key, w, hfind, hw⟩ := required_eq_valid_iff.mp hc
  have hrawConfig : w.IsRaw := isRaw_of_find? hraw.forall_mem hfind
  obtain rfl | ⟨fs, rfl⟩ := eq_scorecard_or_map hw
  · cases hrawConfig with
    | leaf h => cases h
  · exact ⟨fs, hw⟩

theorem exists_map_of_teams {ts : List (String × Team)} (hraw : v.IsRaw) (h : teams v = .valid ts) :
    ∀ t ∈ ts, ∃ es, scorecard (.map es) = .valid t.2.scorecard := by
  unfold teams at h
  split at h
  case h_2 => cases h
  case h_1 es =>
    obtain ⟨fs, hfs, hts⟩ := Checked.andThen_eq_valid_iff.mp h
    have hrows := tableEntries_eq_valid_iff.mp hts
    intro t ht
    obtain ⟨e, he, -, hteam⟩ := hrows.flip.exists_mem_of_mem ht
    -- every row of the table has its value from an entry of the mapping
    obtain ⟨i, k, s, hi, -⟩ := exists_rowName? (Checked.ofExcept_eq_valid_iff.mp hfs) he
    exact exists_map_of_team (hraw.forall_mem _ (List.mem_of_getElem? hi)) hteam

theorem exists_map_of_rulebook {b : Rulebook} (hraw : v.IsRaw) (h : rulebook v = .valid b) :
    ∀ t ∈ b.teams, ∃ es, scorecard (.map es) = .valid t.2.scorecard := by
  obtain ⟨c, hc, hb⟩ := Checked.andThen_eq_valid_iff.mp h
  have heq : c = b := by
    split at hb
    · cases hb
    · split at hb
      · cases hb
      · cases hb
        rfl
  subst heq
  simp only [draft, Checked.andThen_eq_valid_iff, Checked.seq_eq_valid_iff,
    Checked.fmap_eq_valid_iff, record_eq_valid_iff] at hc
  obtain ⟨es, rfl, _, ⟨version, -, rfl⟩, ts, hts, rfl⟩ := hc
  obtain ⟨key, w, hfind, hw⟩ := required_eq_valid_iff.mp hts
  exact exists_map_of_teams (isRaw_of_find? hraw.forall_mem hfind) hw

end Check

namespace Scorecard

variable {c : Scorecard}

theorem remarks_of_valid {es : List (Value × Value)} (h : Check.scorecard (.map es) = .valid c) :
    remarks (.map es) =
      c.missingSections.map (· ++ ": section is missing, category will not be scored") := by
  unfold remarks
  dsimp only
  rw [h]

/-- A scorecard that was read from data, instead of being handed through, is read again, as it is,
from the data that it is written as without what it lacks.  There is nothing to be said against them
but that sections are missing, and evaluating with them is evaluating with the scorecard.  So the
command that validates a file tells of every team just the sections that its scorecard lacks. -/
theorem revalidation :
    (∀ v c, Check.scorecard v = .valid c → v ≠ .scorecard c →
      Check.scorecard c.toData.withoutNulls = .valid c ∧
      remarks c.toData.withoutNulls =
        c.missingSections.map (· ++ ": section is missing, category will not be scored") ∧
      ∀ (e : Engine) cells lead rules,
        e.evaluate cells lead c.toData.withoutNulls rules =
          e.evaluate cells lead (.scorecard c) rules ∧
        e.counts cells lead c.toData.withoutNulls rules =
          e.counts cells lead (.scorecard c) rules) ∧
    ∀ state b, Rulebook.ofFile state = .ok b → ∀ t ∈ b.teams,
      Command.configRemarks t.2 = t.2.scorecard.missingSections.map fun key =>
        "  ! config " ++ (key ++ ": section is missing, category will not be scored") := by
  have hagain : ∀ es c, Check.scorecard (.map es) = .valid c →
      Check.scorecard (.map c.filledEntries) = .valid c :=
    fun es c h => (isNormal_of_read h).scorecard_toData
  constructor
  · intro v c hv hne
    obtain ⟨es, rfl⟩ := (Check.eq_scorecard_or_map hv).resolve_left hne
    have hread := hagain es c hv
    have hsame : ofValue? c.toData.withoutNulls = ofValue? (.scorecard c) :=
      Checked.result?_eq_some_iff.mpr hread
    refine ⟨hread, remarks_of_valid hread, fun e cells lead rules => ?_⟩
    unfold Engine.evaluate Engine.counts
    rw [hsame]
    exact ⟨rfl, rfl⟩
  · intro state b hb t ht
    obtain ⟨v, hv, hread⟩ := Rulebook.ofFile_eq_ok_iff.mp hb
    obtain ⟨es, hes⟩ := Check.exists_map_of_rulebook (Rulebook.isRaw_of_dataOf hv) hread t ht
    have hremarks : remarks t.2.scorecard.toData.withoutNulls = _ :=
      remarks_of_valid (hagain es _ hes)
    rw [Command.configRemarks, hremarks, List.map_map]
    rfl

/-- Data in which tiers and domains are respelled, two tiers become one, a threshold is given as a
range, and some points are no number or infinite. -/
def respelledData : List (Value × Value) :=
  [(.text "teamId", .int 7),
   (.text "weights", .map [(.text "jobRole", .float (.infinite false))]),
   (.text "enrichment", .map [(.text "industry",
      .map [(.text " SaaS", .float .nan), (.text "saas ", .float (.infinite true))])]),
   (.text "bands", .map [(.text "high", .map [(.text "min", .float (.infinite false))]),
      (.text "medium", .float .zero)]),
   (.text "competitorDomains", .list [.text " Acme.COM", .text " "])]

/-- The scorecard that they are read as. -/
def respelled : Scorecard where
  teamId := some "7"
  weights := some
    { jobRole := .infinite false, urgency := .zero, engagement := .zero,
      nonnegative := by decide +kernel }
  enrichment := some { companySize := [], industry := [("saas", .infinite true)] }
  bands := some
    { high := .infinite false, medium := .zero, low := .zero, ascending := by decide +kernel }
  competitorDomains := ["acme.com"]

theorem revalidation_respelled :
    Check.scorecard (.map respelledData) = .valid respelled ∧
      Check.scorecard respelled.toData.withoutNulls = .valid respelled ∧
      remarks respelled.toData.withoutNulls =
        ["negative: section is missing, category will not be scored"] := by
  have hread : Check.scorecard (.map respelledData) = .valid respelled := by decide +kernel
  obtain ⟨hagain, hremarks, -⟩ := revalidation.1 _ _ hread (fun h => Value.noConfusion h)
  exact ⟨hread, hagain, hremarks⟩

end Scorecard

end Qualify
