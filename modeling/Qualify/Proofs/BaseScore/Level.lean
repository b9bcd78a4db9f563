import Mathlib.Logic.Relation
import Qualify.Proofs.BaseScore.Dependence
import Qualify.Proofs.BaseScore.Ledger
import Qualify.Proofs.Text.Ascii
import Qualify.Proofs.Text.Separator

/-!
# The spelling of levels

A level is looked up and printed without blanks around it, in lower case, and with one underscore
for every run of blanks and hyphens.  So the case of basic letters, the blanks around a level and
the runs inside it do not count, however many of these differ at once (`Signal.normalizedLevel_eq`):
each way to spell a level otherwise is one step, and what a step keeps a chain of steps keeps.

A lead gives its urgency and its engagement under several names.  Whichever of these it uses first,
and however it spells what it says there, the signal is the same (`Indicator.signal_eq`).
-/

namespace Qualify

namespace Text

/-- One separator at least, and nothing else. -/
structure IsRun (cs : List Char) : Prop where
  ne_nil : cs ≠ []
  separators : ∀ c ∈ cs, isSeparator c = true

instance : DecidablePred IsRun := fun cs =>
  decidable_of_iff (cs ≠ [] ∧ cs.all isSeparator = true)
    ⟨fun h => ⟨h.1, List.all_eq_true.mp h.2⟩,
      fun h => ⟨h.ne_nil, List.all_eq_true.mpr h.separators⟩⟩

/-- Two texts that differ in one respect: in the case of basic letters, by blanks around the first
one, or in a run of separators between two other characters. -/
inductive Respelling : List Char → List Char → Prop
  | letters {xs ys : List Char} (h : xs.map Char.toLower = ys.map Char.toLower) : Respelling xs ys
  | around (before after cs : List Char) (hbefore : ∀ c ∈ before, isBlank c = true)
      (hafter : ∀ c ∈ after, isBlank c = true) : Respelling (before ++ cs ++ after) cs
  | run (xs rs ss ys : List Char) {a b : Char} (ha : isSeparator a = false)
      (hb : isSeparator b = false) (hrs : IsRun rs) (hss : IsRun ss) :
      Respelling (xs ++ a :: (rs ++ b :: ys)) (xs ++ a :: (ss ++ b :: ys))

end Text

end Qualify

/-- The same text, but for the case of its basic letters, the blanks around it and the separators
in its runs of these. -/
def String.IsRespellingOf (s t : String) : Prop :=
  Relation.EqvGen Qualify.Text.Respelling s.toList t.toList

namespace Qualify

namespace Signal

open Text (isBlank isSeparator IsRun Respelling)

variable {flag : Bool} {a b c : Char} {cs rs ss xs ys : List Char} {s t : String}

/-! ## Runs of separators -/

theorem joinRuns_cons_of_separator (hc : isSeparator c = true) (flag : Bool) (cs : List Char) :
    joinRuns flag (c :: cs) = if flag then joinRuns true cs else '_' :: joinRuns true cs :=
  if_pos hc

theorem joinRuns_cons_of_not_separator (hc : isSeparator c = false) (flag : Bool)
    (cs : List Char) : joinRuns flag (c :: cs) = c :: joinRuns false cs :=
  if_neg (ne_true_of_eq_false hc)

/-- What comes out is an underscore or was there before, and is no separator. -/
theorem mem_joinRuns (h : c ∈ joinRuns flag cs) : (c = '_' ∨ c ∈ cs) ∧ isSeparator c = false := by
  induction cs generalizing flag with
  | nil => cases h
  | cons d cs ih =>
      have htail : ∀ {flag}, c ∈ joinRuns flag cs →
          (c = '_' ∨ c ∈ d :: cs) ∧ isSeparator c = false := fun hmem =>
        (ih hmem).imp (Or.imp_right (List.mem_cons_of_mem d)) id
      cases hd : isSeparator d with
      | true =>
          rw [joinRuns_cons_of_separator hd] at h
          split at h
          · exact htail h
          · rcases List.mem_cons.mp h with rfl | hmem
            · exact ⟨.inl rfl, by decide⟩
            · exact htail hmem
      | false =>
          rw [joinRuns_cons_of_not_separator hd] at h
          rcases List.mem_cons.mp h with rfl | hmem
          · exact ⟨.inr List.mem_cons_self, hd⟩
          · exact htail hmem

theorem joinRuns_eq_self (h : ∀ c ∈ cs, isSeparator c = false) : joinRuns flag cs = cs := by
  induction cs generalizing flag with
  | nil => rfl
  | cons c cs ih =>
      rw [List.forall_mem_cons] at h
      rw [joinRuns_cons_of_not_separator h.1, ih h.2]

/-- A character that is no separator ends every run before it. -/
theorem joinRuns_append_cons (hc : isSeparator c = false) (flag : Bool) (xs ys : List Char) :
    joinRuns flag (xs ++ c :: ys) = joinRuns flag xs ++ c :: joinRuns false ys := by
  induction xs generalizing flag with
  | nil => exact joinRuns_cons_of_not_separator hc flag ys
  | cons x xs ih =>
      cases hx : isSeparator x with
      | true =>
          rw [List.cons_append, joinRuns_cons_of_separator hx, joinRuns_cons_of_separator hx, ih]
          split
          · rfl
          · rfl
      | false =>
          rw [List.cons_append, joinRuns_cons_of_not_separator hx,
            joinRuns_cons_of_not_separator hx, ih]
          rfl

theorem joinRuns_true_run (hrs : ∀ c ∈ rs, isSeparator c = true) : joinRuns true rs = [] := by
  induction rs with
  | nil => rfl
  | cons r rs ih =>
      rw [List.forall_mem_cons] at hrs
      rw [joinRuns_cons_of_separator hrs.1, if_pos rfl, ih hrs.2]

theorem joinRuns_false_run (hrs : IsRun rs) : joinRuns false rs = ['_'] := by
  cases rs with
  | nil => exact absurd rfl hrs.ne_nil
  | cons r rs =>
      have hseparators := List.forall_mem_cons.mp hrs.separators
      rw [joinRuns_cons_of_separator hseparators.1, if_neg Bool.false_ne_true,
        joinRuns_true_run hseparators.2]

/-- A run between two other characters is one underscore. -/
theorem joinRuns_run (ha : isSeparator a = false) (hb : isSeparator b = false) (hrs : IsRun rs)
    (xs ys : List Char) :
    joinRuns false (xs ++ a :: (rs ++ b :: ys)) =
      joinRuns false xs ++ a :: '_' :: b :: joinRuns false ys := by
  rw [joinRuns_append_cons ha, joinRuns_append_cons hb, joinRuns_false_run hrs,
    List.singleton_append]

/-! ## Levels -/

theorem toList_normalizedLevel (s : String) :
    (normalizedLevel s).toList = joinRuns false (Text.lower (Text.trim s.toList)) :=
  String.toList_ofList

theorem isSeparator_of_mem_normalizedLevel (h : c ∈ (normalizedLevel s).toList) :
    isSeparator c = false := by
  rw [toList_normalizedLevel] at h
  exact (mem_joinRuns h).2

theorem isLower_of_mem_normalizedLevel (h : c ∈ (normalizedLevel s).toList) : Text.IsLower c := by
  rw [toList_normalizedLevel] at h
  rcases (mem_joinRuns h).1 with rfl | hmem
  · exact ⟨by decide, by decide, by decide⟩
  · exact Text.isLower_of_mem_lowerAfter hmem

theorem normalizedLevel_normalizedLevel (s : String) :
    normalizedLevel (normalizedLevel s) = normalizedLevel s := by
  have hseparator : ∀ c ∈ (normalizedLevel s).toList, isSeparator c = false :=
    fun _ => isSeparator_of_mem_normalizedLevel
  have hblank : ∀ c ∈ (normalizedLevel s).toList, isBlank c = false :=
    fun c hc => (Text.isSeparator_eq_false_iff.mp (hseparator c hc)).1
  have htrim : Text.trim (normalizedLevel s).toList = (normalizedLevel s).toList :=
    Text.IsTrimmed.trimBy_eq ⟨fun c hc => hblank c (List.mem_of_mem_head? hc),
      fun c hc => hblank c (List.mem_of_getLast? hc)⟩
  have hlower : Text.lower (normalizedLevel s).toList = (normalizedLevel s).toList :=
    Text.lowerAfter_of_isLower fun _ => isLower_of_mem_normalizedLevel
  apply String.toList_inj.mp
  rw [toList_normalizedLevel (normalizedLevel s), htrim, hlower, joinRuns_eq_self hseparator]

/-- Where a run stands between two other characters, the level does not tell which run it is. -/
theorem joinRuns_lower_trim_run (ha : isSeparator a = false) (hb : isSeparator b = false)
    (xs ys : List Char) : ∃ before after, ∀ rs, IsRun rs →
      joinRuns false (Text.lower (Text.trim (xs ++ a :: (rs ++ b :: ys)))) =
        before ++ '_' :: after := by
  have htrim : ∀ zs, Text.trim (xs ++ a :: (zs ++ b :: ys)) =
      xs.dropWhile isBlank ++ a :: (zs ++ b :: (ys.reverse.dropWhile isBlank).reverse) := fun zs =>
    Text.trimBy_append_cons (Text.isSeparator_eq_false_iff.mp ha).1
      (Text.isSeparator_eq_false_iff.mp hb).1 xs zs ys
  -- the neighbours of the run may become other characters, and more of them, but no separators
  obtain ⟨us, u, hstart, hu⟩ := Text.exists_lower_concat ha (xs.dropWhile isBlank)
  obtain ⟨v, vs, hend, hv⟩ := Text.exists_lower_cons hb (ys.reverse.dropWhile isBlank).reverse
  refine ⟨joinRuns false us ++ [u], v :: joinRuns false vs, fun rs hrs => ?_⟩
  have hlower : Text.lower (Text.trim (xs ++ a :: (rs ++ b :: ys))) =
      us ++ u :: (rs ++ v :: vs) := by
    rw [htrim, List.append_cons (xs.dropWhile isBlank) a,
      Text.lower_append_separators hrs.separators hrs.ne_nil, hstart, hend, ← List.append_cons]
  rw [hlower, joinRuns_run hu hv hrs, List.append_cons _ u]

/-- One step from a spelling to another keeps the level. -/
theorem level_eq_of_respelling (h : Respelling xs ys) :
    joinRuns false (Text.lower (Text.trim xs)) = joinRuns false (Text.lower (Text.trim ys)) := by
  cases h with
  | letters h =>
      have htrim : (Text.trim xs).map Char.toLower = (Text.trim ys).map Char.toLower := by
        rw [← Text.trim_map_toLower, h, Text.trim_map_toLower]
      rw [Text.lower_eq_of_map_toLower htrim]
  | around before after _ hbefore hafter => rw [Text.trim_surrounded hbefore hafter]
  | run xs rs ss ys ha hb hrs hss =>
      obtain ⟨before, after, hlevel⟩ := joinRuns_lower_trim_run ha hb xs ys
      rw [hlevel _ hrs, hlevel _ hss]

/-- All spellings of a level are one level. -/
theorem normalizedLevel_eq (h : s.IsRespellingOf t) : normalizedLevel s = normalizedLevel t := by
  -- having one level is an equivalence, so it holds along a chain of steps either way
  have hequiv : Equivalence fun xs ys : List Char =>
      joinRuns false (Text.lower (Text.trim xs)) = joinRuns false (Text.lower (Text.trim ys)) :=
    ⟨fun _ => rfl, Eq.symm, Eq.trans⟩
  have hlevel := hequiv.eqvGen_iff.mp (h.mono fun _ _ => level_eq_of_respelling)
  exact congrArg String.ofList hlevel

end Signal

/-! ## What a lead says of itself -/

/-- The paths at which some signal looks for a level. -/
def Vocabulary.levelPaths : List String := urgencyPaths ++ engagementPaths

/-- What a lead gives a level of. -/
inductive Indicator where
  | urgency
  | engagement
deriving DecidableEq

namespace Indicator

def kind : Indicator → Signal.Kind
  | urgency => .urgency
  | engagement => .engagement

/-- The paths at which a lead may give the level. -/
def paths : Indicator → List String
  | urgency => Vocabulary.urgencyPaths
  | engagement => Vocabulary.engagementPaths

def levels : Indicator → Vocabulary.Levels
  | urgency => Vocabulary.urgencyLevels
  | engagement => Vocabulary.engagementLevels

def label : Indicator → String
  | urgency => "Urgency"
  | engagement => "Engagement"

/-- The weight that the level earns a share of. -/
def weight (w : Weights) : Indicator → Binary64
  | urgency => w.urgency
  | engagement => w.engagement

/-- The signal that the level gives. -/
def signal (i : Indicator) (lead : Lead) (w : Weights) : Except Failure Signal :=
  Signal.level lead (i.weight w) i.paths i.levels i.label

end Indicator

/-- The signal of an indicator among those of a lead. -/
def Signals.indicated (s : Signals) : Indicator → Signal
  | .urgency => s.urgency
  | .engagement => s.engagement

namespace Lead

variable {a b l : Lead} {i : Indicator} {paths : List String} {path s : String}

/-- A text stands at one of several paths, and nothing at those before it. -/
def StandsFirst (l : Lead) (paths : List String) (path s : String) : Prop :=
  ∃ before after, paths = before ++ path :: after ∧
    (∀ p ∈ before, l.resolve p = .ok .null ∨ l.resolve p = .ok (.text "")) ∧
    l.resolve path = .ok (.text s)

/-- Two leads give one level in two spellings, neither of them blank, at whichever of its paths a
text stands first in each of them. -/
def SpellsLike (a b : Lead) (i : Indicator) : Prop :=
  ∃ s t p q, Text.trim s.toList ≠ [] ∧ Text.trim t.toList ≠ [] ∧ s.IsRespellingOf t ∧
    a.StandsFirst i.paths p s ∧ b.StandsFirst i.paths q t

/-- Two leads that differ, where any signal looks, in the spelling of their levels at most and in
the paths at which they give these. -/
structure DiffersInLevels (a b : Lead) : Prop where
  email : a.email = b.email
  domain : a.domain = b.domain
  elsewhere : ∀ p ∈ Vocabulary.signalPaths, p ∉ Vocabulary.levelPaths → a.resolve p = b.resolve p
  levels (i : Indicator) : a.firstFilled i.paths = b.firstFilled i.paths ∨ a.SpellsLike b i

theorem firstFilled_cons (l : Lead) (p : String) (ps : List String) :
    l.firstFilled (p :: ps) = l.resolve p >>= fun v => v.isFilled >>= fun filled =>
      if filled then .ok v else l.firstFilled ps := rfl

/-- The text that stands first is found, unless it is empty. -/
theorem StandsFirst.firstFilled (h : l.StandsFirst paths path s) (hs : Text.trim s.toList ≠ []) :
    l.firstFilled paths = .ok (.text s) := by
  obtain ⟨before, after, rfl, hbefore, hpath⟩ := h
  induction before with
  | nil =>
      have hfilled : (Value.text s).isFilled = .ok true := by
        refine congrArg Except.ok (bne_iff_ne.mpr ?_)
        rintro rfl
        exact hs rfl
      rw [List.nil_append, firstFilled_cons, hpath, Except.ok_bind, hfilled]
      rfl
  | cons p ps ih =>
      rw [List.forall_mem_cons] at hbefore
      rw [List.cons_append, firstFilled_cons, ← ih hbefore.2]
      rcases hbefore.1 with hp | hp
      · rw [hp]
        rfl
      · rw [hp]
        rfl

theorem firstFilled_congr (h : ∀ p ∈ paths, a.resolve p = b.resolve p) :
    a.firstFilled paths = b.firstFilled paths := by
  induction paths with
  | nil => rfl
  | cons p ps ih =>
      rw [List.forall_mem_cons] at h
      rw [firstFilled_cons, firstFilled_cons, h.1, ih h.2]

end Lead

/-! ## The signals of levels -/

namespace Signal

variable {a b : Lead} {paths : List String} {s t : String}

theorem level_congr (h : a.firstFilled paths = b.firstFilled paths) (weight : Binary64)
    (levels : Vocabulary.Levels) (label : String) :
    level a weight paths levels label = level b weight paths levels label := by
  rw [level, level, h]

theorem level_eq_of_isRespellingOf (h : s.IsRespellingOf t)
    (ha : a.firstFilled paths = .ok (.text s)) (hb : b.firstFilled paths = .ok (.text t))
    (weight : Binary64) (levels : Vocabulary.Levels) (label : String) :
    level a weight paths levels label = level b weight paths levels label := by
  rw [level, level, ha, hb, Except.ok_bind, Except.ok_bind]
  simp only [normalizedLevel_eq h]

end Signal

namespace Indicator

variable {a b lead : Lead} {tables : DomainTables} {c : Scorecard} {s : Signals}

/-- However a level is spelled and at whichever path it is given, the signal is the same, or fails
alike. -/
theorem signal_eq {i : Indicator} (h : a.SpellsLike b i) : i.signal a = i.signal b := by
  obtain ⟨s, t, p, q, hs, ht, hst, ha, hb⟩ := h
  funext w
  exact Signal.level_eq_of_isRespellingOf hst (ha.firstFilled hs) (hb.firstFilled ht) _ _ _

theorem signal_congr {i : Indicator} (h : a.firstFilled i.paths = b.firstFilled i.paths) :
    i.signal a = i.signal b := by
  funext w
  exact Signal.level_congr h _ _ _

theorem ofSection_signal (hs : s.OfLead tables lead c) (i : Indicator) :
    Signal.ofSection c.weights (i.signal lead) = .ok (s.indicated i) := by
  cases i with
  | urgency => exact hs.urgency
  | engagement => exact hs.engagement

theorem indicated_eq {tables' : DomainTables} {s' : Signals} {i : Indicator}
    (h : a.SpellsLike b i) (hs : s.OfLead tables a c) (hs' : s'.OfLead tables' b c) :
    s.indicated i = s'.indicated i := by
  have hsignal := ofSection_signal hs i
  rw [signal_eq h, ofSection_signal hs' i] at hsignal
  exact (Except.ok.inj hsignal).symm

theorem components_of_category (s : Signals) (i : Indicator) :
    s.components.of i.kind.category = (s.indicated i).points := by
  cases i with
  | urgency => rfl
  | engagement => rfl

/-- The lines of an indicator in a trace are those of its signal. -/
theorem filter_trace (hs : s.OfLead tables lead c) (i : Indicator) :
    (s.toList.flatMap Signal.trace).filter i.kind.heads = (s.indicated i).trace := by
  obtain ⟨⟨hjobRole, hurgency, hengagement⟩, -, -⟩ := BaseScore.weightSignals hs
  obtain ⟨size, industry, henrichment, ⟨hsize, hindustry⟩, -, -⟩ := BaseScore.enrichmentSignals hs
  obtain ⟨competitor, freeEmail, invalidDomain, spam, hnegative,
    ⟨hcompetitor, hfreeEmail, hinvalidDomain, hspam⟩, -, -⟩ := BaseScore.penaltySignals hs
  simp only [Signals.toList, henrichment, hnegative, Signal.and, List.flatMap_cons,
    List.flatMap_nil, List.filter_append, hjobRole.filter_trace, hurgency.filter_trace,
    hengagement.filter_trace, hsize.filter_trace, hindustry.filter_trace, hcompetitor.filter_trace,
    hfreeEmail.filter_trace, hinvalidDomain.filter_trace, hspam.filter_trace]
  cases i with
  | urgency => simp [kind, Signals.indicated]
  | engagement => simp [kind, Signals.indicated]

end Indicator

/-! ## The base score -/

namespace Lead.DiffersInLevels

variable {a b : Lead} {paths : List String}

theorem firstFilled_eq (h : a.DiffersInLevels b)
    (hpaths : ∀ p ∈ paths, p ∈ Vocabulary.signalPaths ∧ p ∉ Vocabulary.levelPaths) :
    a.firstFilled paths = b.firstFilled paths :=
  firstFilled_congr fun p hp => h.elsewhere p (hpaths p hp).1 (hpaths p hp).2

theorem signal_eq (h : a.DiffersInLevels b) (i : Indicator) : i.signal a = i.signal b := by
  rcases h.levels i with hsame | hspells
  · exact Indicator.signal_congr hsame
  · exact Indicator.signal_eq hspells

theorem jobRole_eq (h : a.DiffersInLevels b) : Signal.jobRole a = Signal.jobRole b := by
  have htitle : a.firstFilled Vocabulary.titlePaths = b.firstFilled Vocabulary.titlePaths :=
    h.firstFilled_eq (by decide)
  funext w
  rw [Signal.jobRole, Signal.jobRole, htitle]

theorem enrichment_eq (h : a.DiffersInLevels b) : Signal.enrichment a = Signal.enrichment b := by
  have hsize : a.firstFilled Vocabulary.companySizePaths =
      b.firstFilled Vocabulary.companySizePaths := h.firstFilled_eq (by decide)
  have hindustry : a.firstFilled Vocabulary.industryPaths =
      b.firstFilled Vocabulary.industryPaths := h.firstFilled_eq (by decide)
  funext e
  simp only [Signal.enrichment, Signal.tier, hsize, hindustry]

theorem penalties_eq (h : a.DiffersInLevels b) (tables : DomainTables) (own : List String) :
    Signal.penalties tables a own = Signal.penalties tables b own := by
  have hcompetitor := h.elsewhere Vocabulary.competitorFlag (by decide) (by decide)
  have hfreeMailbox := h.elsewhere Vocabulary.freeMailboxFlag (by decide) (by decide)
  funext p
  simp only [Signal.penalties, Signal.isFlagged, Signal.hasInvalidDomain,
    Signal.hasInvalidDomain.badDomain, Signal.domainOf, h.email, h.domain, hcompetitor,
    hfreeMailbox]

/-- Leads that differ in their levels only have one base score, or one failure. -/
theorem ofLead_eq (h : a.DiffersInLevels b) (tables : DomainTables) (c : Scorecard) :
    BaseScore.ofLead tables a c = BaseScore.ofLead tables b c := by
  have hurgency (w : Weights) : Signal.level a w.urgency Vocabulary.urgencyPaths
      Vocabulary.urgencyLevels "Urgency" = _ := congrFun (h.signal_eq .urgency) w
  have hengagement (w : Weights) : Signal.level a w.engagement Vocabulary.engagementPaths
      Vocabulary.engagementLevels "Engagement" = _ := congrFun (h.signal_eq .engagement) w
  simp only [BaseScore.ofLead, h.jobRole_eq, hurgency, hengagement, h.enrichment_eq,
    h.penalties_eq]
  rfl

end Lead.DiffersInLevels

/-- A level that has been brought into one spelling stays as it is when this is asked for again, and
has no white space and no hyphen in it.  Two leads that spell a level alike, at whichever of its
paths it stands first in either, have the same points and the same line for it under every
scorecard; and if they differ in nothing else that a signal looks at, they have one base score, or
fail to have one alike. -/
theorem level_spelling_laws :
    (∀ s, Signal.normalizedLevel (Signal.normalizedLevel s) = Signal.normalizedLevel s ∧
      ∀ c ∈ (Signal.normalizedLevel s).toList, Text.isBlank c = false ∧ c ≠ '-') ∧
    ∀ (cells cells' : Cells) (v w : Value) (a b : Lead),
      Lead.ofValue? cells v = some a → Lead.ofValue? cells' w = some b →
      (∀ i : Indicator, a.SpellsLike b i →
        i.signal a = i.signal b ∧
        ∀ tables tables' c x y, BaseScore.ofValue tables cells v c = .ok x →
          BaseScore.ofValue tables' cells' w c = .ok y →
          x.components.of i.kind.category = y.components.of i.kind.category ∧
            x.trace.filter i.kind.heads = y.trace.filter i.kind.heads) ∧
      (a.DiffersInLevels b → ∀ tables c,
        BaseScore.ofValue tables cells v c = BaseScore.ofValue tables cells' w c) := by
  refine ⟨fun s => ⟨Signal.normalizedLevel_normalizedLevel s, fun c hc => ?_⟩,
    fun cells cells' v w a b ha hb => ?_⟩
  · exact Text.isSeparator_eq_false_iff.mp (Signal.isSeparator_of_mem_normalizedLevel hc)
  · simp only [BaseScore.ofValue, ha, hb]
    refine ⟨fun i h => ⟨Indicator.signal_eq h, fun tables tables' c x y hx hy => ?_⟩,
      fun h => h.ofLead_eq⟩
    obtain ⟨s, hs, -, hcomponents, -, htrace⟩ := BaseScore.ofLead_eq_ok_iff.mp hx
    obtain ⟨s', hs', -, hcomponents', -, htrace'⟩ := BaseScore.ofLead_eq_ok_iff.mp hy
    have hindicated := Indicator.indicated_eq h hs hs'
    constructor
    · rw [hcomponents, hcomponents', Indicator.components_of_category,
        Indicator.components_of_category, hindicated]
    · rw [htrace, htrace', Indicator.filter_trace hs, Indicator.filter_trace hs', hindicated]

/-! Two leads that spell their levels alike and give them at different paths. -/

namespace TwoLevels

def hyphenated : List (Value × Value) :=
  [(.text "urgency", .text "low"), (.text "engagement", .text "Very - Interested\t"),
    (.text "fields", .map [(.text "timeline", .text " This-Month\n"), (.text "urgency", .text "")])]

def wide : List (Value × Value) :=
  [(.text "urgency", .text "this  month"), (.text "engagement", .text "high"),
    (.text "fields", .map [(.text "interest", .text "very interested")])]

theorem month_isRespellingOf : " This-Month\n".IsRespellingOf "this  month" := by
  have haround : Text.Respelling " This-Month\n".toList "This-Month".toList :=
    .around [' '] ['\n'] "This-Month".toList (List.all_eq_true.mp rfl) (List.all_eq_true.mp rfl)
  have hcase : Text.Respelling "This-Month".toList "this-month".toList := .letters (by decide)
  have hrun : Text.Respelling "this-month".toList "this  month".toList :=
    .run "thi".toList ['-'] [' ', ' '] "onth".toList (by decide) (by decide) (by decide) (by decide)
  exact .trans _ _ _ (.rel _ _ haround) (.trans _ _ _ (.rel _ _ hcase) (.rel _ _ hrun))

theorem interest_isRespellingOf : "Very - Interested\t".IsRespellingOf "very interested" := by
  have haround : Text.Respelling "Very - Interested\t".toList "Very - Interested".toList :=
    .around [] ['\t'] "Very - Interested".toList (List.all_eq_true.mp rfl) (List.all_eq_true.mp rfl)
  have hcase : Text.Respelling "Very - Interested".toList "very - interested".toList :=
    .letters (by decide)
  have hrun : Text.Respelling "very - interested".toList "very interested".toList :=
    .run "ver".toList [' ', '-', ' '] [' '] "nterested".toList (by decide) (by decide) (by decide)
      (by decide)
  exact .trans _ _ _ (.rel _ _ haround) (.trans _ _ _ (.rel _ _ hcase) (.rel _ _ hrun))

theorem spellsLike (i : Indicator) :
    (Lead.ofEntries [] hyphenated).SpellsLike (Lead.ofEntries [] wide) i := by
  cases i with
  | urgency =>
      refine ⟨_, _, "fields.timeline", "urgency", by decide, by decide,
        month_isRespellingOf, ⟨["fields.urgency"], ["urgency"], rfl, ?_, rfl⟩,
        ⟨["fields.urgency", "fields.timeline"], [], rfl, ?_, rfl⟩⟩
      · rw [List.forall_mem_singleton]
        exact .inr rfl
      · rw [List.forall_mem_cons, List.forall_mem_singleton]
        exact ⟨.inl rfl, .inl rfl⟩
  | engagement =>
      refine ⟨_, _, "engagement", "fields.interest", by decide, by decide,
        interest_isRespellingOf, ⟨["fields.engagement", "fields.interest"], [], rfl, ?_, rfl⟩,
        ⟨["fields.engagement"], ["engagement"], rfl, ?_, rfl⟩⟩
      · rw [List.forall_mem_cons, List.forall_mem_singleton]
        exact ⟨.inl rfl, .inl rfl⟩
      · rw [List.forall_mem_singleton]
        exact .inl rfl

theorem differsInLevels :
    (Lead.ofEntries [] hyphenated).DiffersInLevels (Lead.ofEntries [] wide) where
  email := rfl
  domain := rfl
  elsewhere := by
    intro p hp hlevel
    fin_cases hp <;> first | rfl | exact absurd (by decide) hlevel
  levels i := .inr (spellsLike i)

end TwoLevels

open TwoLevels in
theorem level_spelling_laws_twoLevels :
    Signal.normalizedLevel (Signal.normalizedLevel " This-Month\n") =
        Signal.normalizedLevel " This-Month\n" ∧
      (∀ c x y, BaseScore.ofValue {} [] (.map hyphenated) c = .ok x →
        BaseScore.ofValue {} [] (.map wide) c = .ok y →
        x.components.urgency = y.components.urgency) ∧
      ∀ c, BaseScore.ofValue {} [] (.map hyphenated) c = BaseScore.ofValue {} [] (.map wide) c :=
  have hleads := level_spelling_laws.2 [] [] (.map hyphenated) (.map wide) _ _ rfl rfl
  ⟨(level_spelling_laws.1 " This-Month\n").1,
    fun c x y hx hy => ((hleads.1 .urgency (spellsLike .urgency)).2 {} {} c x y hx hy).1,
    hleads.2 differsInLevels {}⟩

end Qualify
