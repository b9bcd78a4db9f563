import Qualify.Email
import Qualify.Proofs.BaseScore.Occurrence
import Qualify.Proofs.Pattern.Language
import Qualify.Proofs.Text.Lines

/-!
# Domains that can be registered

A domain that can be registered is made up of labels with dots between them, the last one of letters
only (`Domain.IsName`).  Taking a text apart at its dots and looking at the pieces tells such a
domain from other texts (`isRegistrable_iff`), and so does a pattern of nested repetitions behind an
assertion about the length, except that the pattern lets a line break follow
(`occursIn_namePattern_iff`).
-/

namespace Qualify.Domain

open Pattern (Reads repeated)
open Vocabulary.Tier (alphanumeric)

variable {cs name w : List Char}

/-! ## Labels -/

/-- A label: 1 to 63 letters, digits and hyphens, with no hyphen at either end. -/
structure IsInnerLabel (cs : List Char) : Prop where
  nonempty : 1 ≤ cs.length
  short : cs.length ≤ 63
  chars : ∀ c ∈ cs, ('a' ≤ c ∧ c ≤ 'z') ∨ ('0' ≤ c ∧ c ≤ '9') ∨ c = '-'
  start : cs.head? ≠ some '-'
  stop : cs.getLast? ≠ some '-'

/-- A last label: 2 to 63 letters. -/
structure IsLastLabel (cs : List Char) : Prop where
  long : 2 ≤ cs.length
  short : cs.length ≤ 63
  letters : ∀ c ∈ cs, 'a' ≤ c ∧ c ≤ 'z'

/-- Labels with dots between them, a last one behind at least one other. -/
def IsDotted (cs : List Char) : Prop :=
  ∃ labels top, labels ≠ [] ∧ (∀ l ∈ labels, IsInnerLabel l) ∧ IsLastLabel top ∧
    cs = ['.'].intercalate (labels ++ [top])

/-- A domain that can be registered: 4 to 253 characters that make up labels. -/
structure IsName (cs : List Char) : Prop where
  long : 4 ≤ cs.length
  short : cs.length ≤ 253
  dotted : IsDotted cs

theorem isLabel_iff : isLabel cs = true ↔ IsInnerLabel cs := by
  have hchar : ∀ c : Char, (isLetterOrDigit c || c == '-') = true ↔
      ('a' ≤ c ∧ c ≤ 'z') ∨ ('0' ≤ c ∧ c ≤ '9') ∨ c = '-' := by
    intro c
    simp [isLetterOrDigit, isLetter, or_assoc]
  simp only [isLabel, Bool.and_eq_true, decide_eq_true_eq, List.all_eq_true, hchar, bne_iff_ne]
  constructor
  · rintro ⟨⟨⟨⟨hnonempty, hshort⟩, hchars⟩, hstart⟩, hstop⟩
    exact ⟨hnonempty, hshort, hchars, hstart, hstop⟩
  · rintro ⟨hnonempty, hshort, hchars, hstart, hstop⟩
    exact ⟨⟨⟨⟨hnonempty, hshort⟩, hchars⟩, hstart⟩, hstop⟩

theorem isTopLevel_iff : isTopLevel cs = true ↔ IsLastLabel cs := by
  simp only [isTopLevel, isLetter, Bool.and_eq_true, decide_eq_true_eq, List.all_eq_true]
  constructor
  · rintro ⟨⟨hlong, hshort⟩, hletters⟩
    exact ⟨hlong, hshort, hletters⟩
  · rintro ⟨hlong, hshort, hletters⟩
    exact ⟨⟨hlong, hshort⟩, hletters⟩

theorem IsInnerLabel.dot_notMem (h : IsInnerLabel cs) : '.' ∉ cs := fun hdot =>
  absurd (h.chars '.' hdot) (by decide)

theorem IsLastLabel.dot_notMem (h : IsLastLabel cs) : '.' ∉ cs := fun hdot =>
  absurd (h.letters '.' hdot) (by decide)

/-- Taking a text apart tells whether it is a domain that can be registered. -/
theorem isRegistrable_iff : isRegistrable cs = true ↔ IsName cs := by
  have hjoin : ['.'].intercalate (Text.splitOn '.' cs) = cs := by
    rw [← Text.joinWith_eq_intercalate, Text.joinWith_splitOn]
  simp only [isRegistrable, Bool.and_eq_true, decide_eq_true_eq, List.all_eq_true, isLabel_iff]
  constructor
  · rintro ⟨⟨⟨⟨hlong, hshort⟩, htwo⟩, hlabels⟩, htop⟩
    refine ⟨hlong, hshort, ?_⟩
    rcases List.eq_nil_or_concat' (Text.splitOn '.' cs) with hnil | ⟨labels, top, hpieces⟩
    · exact absurd hnil (Text.splitOn_ne_nil '.' cs)
    · rw [hpieces] at htwo hlabels htop hjoin
      rw [List.dropLast_concat] at hlabels
      rw [List.getLast?_concat, Option.any_some, isTopLevel_iff] at htop
      refine ⟨labels, top, ?_, hlabels, htop, hjoin.symm⟩
      rintro rfl
      exact absurd htwo (Nat.not_succ_le_self 1)
  · rintro ⟨hlong, hshort, labels, top, hne, hlabels, htop, rfl⟩
    have hdots : ∀ l ∈ labels ++ [top], '.' ∉ l := by
      intro l hl
      rcases List.mem_append.mp hl with hl | hl
      · exact (hlabels l hl).dot_notMem
      · cases List.mem_singleton.mp hl
        exact htop.dot_notMem
    have hpieces := (Text.splitOn_intercalate_iff '.' (List.concat_ne_nil top labels)).2 hdots
    have hpos := List.length_pos_iff.mpr hne
    rw [hpieces, List.dropLast_concat, List.getLast?_concat, Option.any_some, isTopLevel_iff,
      List.length_append]
    exact ⟨⟨⟨⟨hlong, hshort⟩, Nat.succ_le_succ hpos⟩, hlabels⟩, htop⟩

/-! ## The pattern of a domain -/

/-- A letter of the basic alphabet in lower case. -/
def letter : Pattern.CharTest :=
  .set { folding := .none } [.range 'a'.toNat 'z'.toNat] false

/-- A letter, a digit or a hyphen. -/
def hyphenated : Pattern.CharTest :=
  .set { folding := .none }
    [.range 'a'.toNat 'z'.toNat, .range '0'.toNat '9'.toNat, .point '-'.toNat] false

def dot : Pattern.CharTest := .point .none '.'.toNat false

/-- A label with the dot behind it. -/
def labelPattern : Pattern :=
  .seq (.one alphanumeric) (.seq
    (.rep 0 (some 1) .greedy
      (.seq (.rep 0 (some 61) .greedy (.one hyphenated)) (.one alphanumeric)))
    (.one dot))

/-- A domain that can be registered, from the start of a text to its end. -/
def namePattern : Pattern :=
  .seq (.anchor .textStart) (.seq
    (.ahead false (.seq (.rep 4 (some 253) .greedy (.one (.any false))) (.anchor .lastLineEnd)))
    (.seq (.rep 1 none .greedy (.group 1 labelPattern)) (.seq
      (.rep 2 (some 63) .greedy (.one letter)) (.anchor .lastLineEnd))))

/-- The pattern in the usual notation. -/
def namePatternText : String :=
  "(?-i:^(?=.\x7b4,253\x7d$)([a-z0-9](?:[a-z0-9-]\x7b0,61\x7d[a-z0-9])?\\.)+[a-z]\x7b2,63\x7d$)"

theorem ofText_namePatternText : Pattern.ofText namePatternText = .ok (some namePattern) := by
  decide +kernel

theorem holds_letter (c : Char) : letter.holds c = true ↔ 'a' ≤ c ∧ c ≤ 'z' := by
  simp [letter, Pattern.CharTest.holds, Pattern.SetItem.folds, Pattern.SetItem.holds,
    Char.le_def, UInt32.le_iff_toNat_le]

theorem holds_hyphenated (c : Char) :
    hyphenated.holds c = true ↔ ('a' ≤ c ∧ c ≤ 'z') ∨ ('0' ≤ c ∧ c ≤ '9') ∨ c = '-' := by
  have hhyphen : c.toNat = '-'.toNat ↔ c = '-' := Char.toNat_inj
  simp [hyphenated, Pattern.CharTest.holds, Pattern.SetItem.folds, Pattern.SetItem.holds,
    Char.le_def, UInt32.le_iff_toNat_le, ← hhyphen]

theorem holds_alphanumeric_iff (c : Char) :
    alphanumeric.holds c = true ↔ ('a' ≤ c ∧ c ≤ 'z') ∨ ('0' ≤ c ∧ c ≤ '9') := by
  rw [Vocabulary.Tier.holds_alphanumeric]
  simp [isLetterOrDigit, isLetter]

/-- What may follow the first character of a label. -/
def restWords : Language Char := repeated hyphenated.words 0 (some 61) * alphanumeric.words

/-- A label with the dot behind it. -/
def labelWords : Language Char := alphanumeric.words * (repeated restWords 0 (some 1) * dot.words)

theorem mem_restWords : w ∈ restWords ↔ ∃ inner c, w = inner ++ [c] ∧ inner.length ≤ 61 ∧
    (∀ d ∈ inner, hyphenated.holds d = true) ∧ alphanumeric.holds c = true := by
  simp only [restWords, Language.mem_mul, Pattern.mem_repeated_words, Pattern.CharTest.mem_words]
  constructor
  · rintro ⟨inner, ⟨⟨-, hshort⟩, hinner⟩, _, ⟨c, rfl, hc⟩, rfl⟩
    exact ⟨inner, c, rfl, hshort 61 rfl, hinner, hc⟩
  · rintro ⟨inner, c, rfl, hshort, hinner, hc⟩
    exact ⟨inner, ⟨⟨Nat.zero_le _, by simpa using hshort⟩, hinner⟩, [c], ⟨c, rfl, hc⟩, rfl⟩

theorem nil_notMem_restWords : [] ∉ restWords := by
  intro h
  obtain ⟨inner, c, heq, -⟩ := mem_restWords.mp h
  exact List.concat_ne_nil c inner heq.symm

/-- A label is a letter or digit, or two with as many as 61 characters between them. -/
theorem isInnerLabel_iff : IsInnerLabel w ↔ ∃ c rest, w = c :: rest ∧
    alphanumeric.holds c = true ∧ (rest = [] ∨ rest ∈ restWords) := by
  have hedge : ∀ c : Char, (('a' ≤ c ∧ c ≤ 'z') ∨ ('0' ≤ c ∧ c ≤ '9') ∨ c = '-') → c ≠ '-' →
      alphanumeric.holds c = true := by
    intro c hc hne
    rw [holds_alphanumeric_iff]
    rwa [← or_assoc, or_iff_left hne] at hc
  have hne : ∀ c : Char, alphanumeric.holds c = true → c ≠ '-' := by
    rintro _ hc rfl
    exact absurd ((holds_alphanumeric_iff '-').mp hc) (by decide)
  have hchar : ∀ c : Char, alphanumeric.holds c = true →
      ('a' ≤ c ∧ c ≤ 'z') ∨ ('0' ≤ c ∧ c ≤ '9') ∨ c = '-' := fun c hc =>
    ((holds_alphanumeric_iff c).mp hc).imp_right .inl
  constructor
  · intro h
    obtain ⟨c, rest, rfl⟩ := List.exists_cons_of_length_pos h.nonempty
    have hc := hedge c (h.chars c List.mem_cons_self) fun heq => h.start (heq ▸ rfl)
    refine ⟨c, rest, rfl, hc, ?_⟩
    rcases List.eq_nil_or_concat' rest with rfl | ⟨inner, d, rfl⟩
    · exact .inl rfl
    · have hlast : (c :: (inner ++ [d])).getLast? = some d := by
        rw [← List.cons_append, List.getLast?_concat]
      have hd : alphanumeric.holds d = true :=
        hedge d (h.chars d (by simp)) fun heq => h.stop (hlast.trans (heq ▸ rfl))
      have hshort := h.short
      rw [List.length_cons, List.length_append, List.length_singleton] at hshort
      refine .inr (mem_restWords.mpr ⟨inner, d, rfl, by omega, fun e he => ?_, hd⟩)
      exact (holds_hyphenated e).mpr (h.chars e (by simp [he]))
  · rintro ⟨c, rest, rfl, hc, rfl | hrest⟩
    · refine ⟨Nat.le_refl 1, by simp, ?_, ?_, ?_⟩
      · exact List.forall_mem_singleton.mpr (hchar c hc)
      · simpa using hne c hc
      · simpa using hne c hc
    · obtain ⟨inner, d, rfl, hshort, hinner, hd⟩ := mem_restWords.mp hrest
      have hlength : (c :: (inner ++ [d])).length = inner.length + 2 := by
        rw [List.length_cons, List.length_append, List.length_singleton]
      refine ⟨by omega, by omega, ?_, ?_, ?_⟩
      · intro e he
        simp only [List.mem_cons, List.mem_append, List.not_mem_nil, or_false] at he
        rcases he with rfl | he | rfl
        · exact hchar e hc
        · exact (holds_hyphenated e).mp (hinner e he)
        · exact hchar e hd
      · simpa using hne c hc
      · rw [← List.cons_append, List.getLast?_concat]
        simpa using hne d hd

theorem mem_labelWords : w ∈ labelWords ↔ ∃ label, IsInnerLabel label ∧ w = label ++ ['.'] := by
  have hdot : ∀ c : Char, dot.holds c = true ↔ c = '.' := fun c => Pattern.holds_character
  simp only [labelWords, Language.mem_mul, Pattern.mem_repeated_optional,
    Pattern.CharTest.mem_words, hdot, isInnerLabel_iff]
  constructor
  · rintro ⟨_, ⟨c, rfl, hc⟩, _, ⟨rest, hrest, _, ⟨_, rfl, rfl⟩, rfl⟩, rfl⟩
    exact ⟨c :: rest, ⟨c, rest, rfl, hc, hrest⟩, rfl⟩
  · rintro ⟨_, ⟨c, rest, rfl, hc, hrest⟩, rfl⟩
    exact ⟨[c], ⟨c, rfl, hc⟩, rest ++ ['.'], ⟨rest, hrest, ['.'], ⟨_, rfl, rfl⟩, rfl⟩, rfl⟩

theorem reads_labelPattern : Reads labelPattern labelWords := by
  have hrest : Reads (.seq (.rep 0 (some 61) .greedy (.one hyphenated)) (.one alphanumeric))
      restWords := (Pattern.reads_rep_one _ _ _).seq (Pattern.reads_one _)
  exact (Pattern.reads_one _).seq <|
    (hrest.rep (fun _ heq => nomatch heq) nil_notMem_restWords (by simp)).seq (Pattern.reads_one _)

/-! ## What the pattern of a domain matches -/

/-- Labels with their dots, and a last label. -/
def dottedWords : Language Char :=
  repeated labelWords 1 none * repeated letter.words 2 (some 63)

/-- Labels that each have their dot behind them, and a last one. -/
theorem intercalate_concat (labels : List (List Char)) (top : List Char) :
    ['.'].intercalate (labels ++ [top]) = labels.flatMap (· ++ ['.']) ++ top := by
  induction labels with
  | nil => simp
  | cons l labels ih =>
      obtain ⟨m, rest, hrest⟩ := List.exists_cons_of_ne_nil (List.concat_ne_nil top labels)
      rw [List.cons_append, hrest, List.intercalate_cons_cons, ← hrest, ih, List.flatMap_cons,
        List.append_assoc, List.append_assoc, List.append_assoc]

theorem mem_labelWords_pow {n : Nat} : w ∈ labelWords ^ n ↔
    ∃ labels : List (List Char), labels.length = n ∧ (∀ l ∈ labels, IsInnerLabel l) ∧
      w = labels.flatMap (· ++ ['.']) := by
  induction n generalizing w with
  | zero =>
      rw [pow_zero, Language.mem_one]
      simp only [List.length_eq_zero_iff]
      constructor
      · rintro rfl
        exact ⟨[], rfl, List.forall_mem_nil _, rfl⟩
      · rintro ⟨_, rfl, -, rfl⟩
        rfl
  | succ n ih =>
      simp only [pow_succ', Language.mem_mul, mem_labelWords, ih]
      constructor
      · rintro ⟨_, ⟨label, hlabel, rfl⟩, _, ⟨labels, rfl, hlabels, rfl⟩, rfl⟩
        exact ⟨label :: labels, rfl, List.forall_mem_cons.mpr ⟨hlabel, hlabels⟩, rfl⟩
      · rintro ⟨_ | ⟨label, labels⟩, hlength, hlabels, rfl⟩
        · exact nomatch hlength
        · obtain ⟨hlabel, hlabels⟩ := List.forall_mem_cons.mp hlabels
          exact ⟨_, ⟨label, hlabel, rfl⟩, _, ⟨labels, Nat.succ.inj hlength, hlabels, rfl⟩, rfl⟩

theorem mem_dottedWords : w ∈ dottedWords ↔ IsDotted w := by
  have htop : ∀ {top : List Char}, top ∈ repeated letter.words 2 (some 63) ↔ IsLastLabel top := by
    intro top
    simp only [Pattern.mem_repeated_words, holds_letter, Pattern.InBounds, Option.mem_some_iff,
      forall_eq']
    constructor
    · rintro ⟨⟨hlong, hshort⟩, hletters⟩
      exact ⟨hlong, hshort, hletters⟩
    · rintro ⟨hlong, hshort, hletters⟩
      exact ⟨⟨hlong, hshort⟩, hletters⟩
  simp only [dottedWords, IsDotted, Language.mem_mul, Pattern.mem_repeated, mem_labelWords_pow,
    htop, intercalate_concat]
  constructor
  · rintro ⟨_, ⟨n, ⟨hn, -⟩, labels, rfl, hlabels, rfl⟩, top, htop, rfl⟩
    exact ⟨labels, top, List.length_pos_iff.mp hn, hlabels, htop, rfl⟩
  · rintro ⟨labels, top, hne, hlabels, htop, rfl⟩
    exact ⟨_, ⟨labels.length, ⟨List.length_pos_iff.mpr hne, by simp⟩, labels, rfl, hlabels, rfl⟩,
      top, htop, rfl⟩

theorem IsDotted.newline_notMem (h : IsDotted cs) : '\n' ∉ cs := by
  obtain ⟨labels, top, -, hlabels, htop, rfl⟩ := h
  rw [intercalate_concat]
  simp only [List.mem_append, List.mem_flatMap, List.mem_singleton, not_or, not_exists, not_and]
  refine ⟨fun l hl => ⟨fun hmem => ?_, by decide⟩, fun hmem => ?_⟩
  · exact absurd ((hlabels l hl).chars _ hmem) (by decide)
  · exact absurd (htop.letters _ hmem) (by decide)

theorem reads_labels : Reads (.rep 1 none .greedy (.group 1 labelPattern))
    (repeated labelWords 1 none) := by
  refine (reads_labelPattern.group 1).rep (fun _ heq => nomatch heq) (fun hnil => ?_) (by simp)
  obtain ⟨label, -, heq⟩ := mem_labelWords.mp hnil
  exact List.concat_ne_nil _ _ heq.symm

/-- A line of as many characters as a domain may have and the domain are the same where a text ends
behind both. -/
theorem exists_isName_iff {text : List Char} :
    ((∃ line ∈ repeated (Pattern.CharTest.any false).words 4 (some 253),
        text = line ∨ text = line ++ ['\n']) ∧
      ∃ name ∈ dottedWords, text = name ∨ text = name ++ ['\n']) ↔
    ∃ name, IsName name ∧ (text = name ∨ text = name ++ ['\n']) := by
  have hline : ∀ {line : List Char},
      line ∈ repeated (Pattern.CharTest.any false).words 4 (some 253) ↔
        (4 ≤ line.length ∧ line.length ≤ 253) ∧ '\n' ∉ line := by
    intro line
    rw [Pattern.mem_repeated_words, Pattern.InBounds]
    simp [Pattern.CharTest.holds, List.forall_mem_ne']
  simp only [hline, mem_dottedWords]
  constructor
  · rintro ⟨⟨line, ⟨⟨hlong, hshort⟩, hone⟩, hleft⟩, name, hname, hleft'⟩
    have heq : line = name := by
      rcases hleft with rfl | rfl
      · rcases hleft' with rfl | rfl
        · rfl
        · exact absurd List.mem_concat_self hone
      · rcases hleft' with rfl | heq
        · exact absurd List.mem_concat_self hname.newline_notMem
        · exact List.append_cancel_right heq
    exact ⟨name, ⟨heq ▸ hlong, heq ▸ hshort, hname⟩, hleft'⟩
  · rintro ⟨name, ⟨hlong, hshort, hname⟩, hleft⟩
    exact ⟨⟨name, ⟨⟨hlong, hshort⟩, hname.newline_notMem⟩, hleft⟩, name, hname, hleft⟩

/-- The pattern of a domain is found in the domains that can be registered, and in those with a line
break behind them. -/
theorem occursIn_namePattern_iff {text : String} : namePattern.occursIn text = true ↔
    ∃ name, IsName name ∧ (text.toList = name ∨ text.toList = name ++ ['\n']) := by
  have hlength : Reads (.rep 4 (some 253) .greedy (.one (.any false)))
      (repeated (Pattern.CharTest.any false).words 4 (some 253)) := Pattern.reads_rep_one _ _ _
  have hdotted : Reads (.seq (.rep 1 none .greedy (.group 1 labelPattern))
      (.rep 2 (some 63) .greedy (.one letter))) dottedWords :=
    reads_labels.seq (Pattern.reads_rep_one _ _ _)
  have hplace : ∀ before after, (Pattern.run (before ++ after).toArray namePattern
      ⟨before.length, []⟩ some).isSome = true ↔ before = [] ∧
        ∃ name, IsName name ∧ (after = name ∨ after = name ++ ['\n']) := by
    intro before after
    rw [namePattern, Pattern.run, Pattern.isSome_run_anchor, Pattern.holds_textStart, Pattern.run]
    simp only [Pattern.run_seq_assoc]
    rw [Pattern.isSome_run_ahead (hdotted.ignoresGroups_toEnd _), hlength.isSome_run_toEnd,
      hdotted.isSome_run_toEnd, exists_isName_iff]
  rw [Pattern.occursIn_iff]
  simp only [hplace]
  constructor
  · rintro ⟨_, after, heq, rfl, h⟩
    rwa [heq]
  · exact fun h => ⟨[], text.toList, rfl, rfl, h⟩

end Qualify.Domain
