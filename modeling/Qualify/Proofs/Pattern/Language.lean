import Mathlib.Computability.Language
import Qualify.Proofs.Pattern.Match

/-!
# Languages of patterns

A pattern of tests, sequences, groups and repetitions matches words, whatever stands before and
behind them (`Reads`), as long as what is to follow does not ask what the groups have matched.  The
matcher then goes on after one of these words if it can after any of them, so the languages of the
parts make up that of the whole: a sequence has the product of two languages, and a repetition has
the powers of one within its bounds (`Reads.rep`).  A matcher stops repeating where a step was
empty, which no step of a language without the empty word is.
-/

namespace Qualify.Pattern

variable {cs before after : List Char} {groups : List (Nat × Nat × Nat)} {next : Next}
variable {p q : Pattern} {l m : Language Char} {t : CharTest}

/-- Whether a text can be gone on with from one of its places does not depend on what the groups
have matched. -/
def IgnoresGroups (cs : List Char) (next : Next) : Prop :=
  ∀ before after, cs = before ++ after → ∀ groups groups',
    (next ⟨before.length, groups⟩).isSome = true → (next ⟨before.length, groups'⟩).isSome = true

theorem ignoresGroups_some (cs : List Char) : IgnoresGroups cs some := fun _ _ _ _ _ _ => rfl

/-- A pattern matches the words of a language in any text. -/
def Reads (p : Pattern) (l : Language Char) : Prop :=
  ∀ before after groups next, IgnoresGroups (before ++ after) next →
    ((run (before ++ after).toArray p ⟨before.length, groups⟩ next).isSome = true ↔
      ∃ word ∈ l, ∃ rest, after = word ++ rest ∧
        (next ⟨(before ++ word).length, groups⟩).isSome = true)

theorem Reads.ignoresGroups (h : Reads p l) (hnext : IgnoresGroups cs next) :
    IgnoresGroups cs fun s => run cs.toArray p s next := by
  rintro before after rfl groups groups' hrun
  obtain ⟨word, hword, rest, rfl, hrest⟩ := (h before after groups next hnext).mp hrun
  refine (h before _ groups' next hnext).mpr ⟨word, hword, rest, rfl, ?_⟩
  exact hnext _ rest (List.append_assoc before word rest).symm _ _ hrest

/-! ## Assertions -/

theorem isSome_run_anchor {a : Anchor} {text : Array Char} {s : State} :
    (run text (.anchor a) s next).isSome = true ↔
      a.holds text s.pos = true ∧ (next s).isSome = true := by
  rw [run_anchor]
  split
  · case isTrue h => exact (and_iff_right h).symm
  · case isFalse h => exact iff_of_false Bool.false_ne_true fun hboth => h hboth.1

theorem ignoresGroups_anchor {a : Anchor} (hnext : IgnoresGroups cs next) :
    IgnoresGroups cs fun s => run cs.toArray (.anchor a) s next := by
  intro before after heq groups groups' hrun
  obtain ⟨hholds, h⟩ := isSome_run_anchor.mp hrun
  exact isSome_run_anchor.mpr ⟨hholds, hnext before after heq _ _ h⟩

theorem holds_textStart : Anchor.textStart.holds (before ++ after).toArray before.length = true ↔
    before = [] := by
  rw [Anchor.holds, beq_iff_eq, List.length_eq_zero_iff]

/-- The last line ends before nothing but a line break. -/
theorem holds_lastLineEnd :
    Anchor.lastLineEnd.holds (before ++ after).toArray before.length = true ↔
      after = [] ∨ after = ['\n'] := by
  rw [Anchor.holds, getElem?_place, List.size_toArray, List.length_append]
  rcases after with - | ⟨c, - | ⟨d, rest⟩⟩
  · simp
  · simp [isLineBreak]
  · simp

/-- What an assertion finds is left to be matched again. -/
theorem isSome_run_ahead (hnext : IgnoresGroups (before ++ after) next) :
    (run (before ++ after).toArray (.ahead false p) ⟨before.length, groups⟩ next).isSome = true ↔
      (run (before ++ after).toArray p ⟨before.length, groups⟩ some).isSome = true ∧
        (next ⟨before.length, groups⟩).isSome = true := by
  rw [run_ahead]
  cases run (before ++ after).toArray p ⟨before.length, groups⟩ some with
  | none => simp
  | some t =>
      simp only [Bool.false_eq_true, if_false, Option.isSome_some, true_and]
      exact ⟨hnext before after rfl _ _, hnext before after rfl _ _⟩

/-! ## Tests, sequences and groups -/

/-- The words of one character that passes a test. -/
def CharTest.words (t : CharTest) : Language Char := {w | ∃ c, w = [c] ∧ t.holds c = true}

theorem CharTest.mem_words {w : List Char} : w ∈ t.words ↔ ∃ c, w = [c] ∧ t.holds c = true :=
  Iff.rfl

theorem reads_one (t : CharTest) : Reads (.one t) t.words := by
  intro before after groups next _
  rw [run_one_append]
  simp only [CharTest.mem_words]
  cases after with
  | nil => simp
  | cons c after =>
      by_cases hc : t.holds c = true
      · simp [hc]
      · simp [hc]

theorem Reads.seq (hp : Reads p l) (hq : Reads q m) : Reads (.seq p q) (l * m) := by
  intro before after groups next hnext
  rw [run_seq, hp before after groups _ (hq.ignoresGroups hnext)]
  constructor
  · rintro ⟨u, hu, rest, rfl, hrun⟩
    rw [← List.append_assoc] at hrun hnext
    obtain ⟨v, hv, rest, rfl, h⟩ := (hq _ rest groups next hnext).mp hrun
    refine ⟨u ++ v, Language.append_mem_mul hu hv, rest, (List.append_assoc u v rest).symm, ?_⟩
    rwa [← List.append_assoc]
  · rintro ⟨word, hword, rest, rfl, h⟩
    obtain ⟨u, hu, v, hv, rfl⟩ := Language.mem_mul.mp hword
    refine ⟨u, hu, v ++ rest, List.append_assoc u v rest, ?_⟩
    rw [List.append_assoc, ← List.append_assoc before] at hnext ⊢
    refine (hq _ _ groups next hnext).mpr ⟨v, hv, rest, rfl, ?_⟩
    rwa [List.append_assoc]

theorem run_seq_assoc {r : Pattern} {text : Array Char} {s : State} :
    run text (.seq p (.seq q r)) s next = run text (.seq (.seq p q) r) s next := rfl

theorem Reads.group (h : Reads p l) (n : Nat) : Reads (.group n p) l := by
  intro before after groups next hnext
  have hstored : IgnoresGroups (before ++ after)
      fun t => next { t with groups := (n, before.length, t.pos) :: t.groups } :=
    fun before after heq _ _ hrun => hnext before after heq _ _ hrun
  rw [run_group, h before after groups _ hstored]
  refine exists_congr fun word => and_congr_right fun _ => exists_congr fun rest =>
    and_congr_right ?_
  rintro rfl
  have hplace := hnext _ rest (List.append_assoc before word rest).symm
  exact ⟨hplace _ _, hplace _ _⟩

/-! ## Repetitions -/

/-- May a repetition that is to be taken `least` to `most` times be taken so often? -/
def InBounds (least : Nat) (most : Option Nat) (n : Nat) : Prop := least ≤ n ∧ ∀ m ∈ most, n ≤ m

/-- Words that are made up of so many words of a language, one after the other. -/
def repeated (l : Language Char) (least : Nat) (most : Option Nat) : Language Char :=
  {w | ∃ n, InBounds least most n ∧ w ∈ l ^ n}

theorem mem_repeated {least : Nat} {most : Option Nat} {w : List Char} :
    w ∈ repeated l least most ↔ ∃ n, InBounds least most n ∧ w ∈ l ^ n := Iff.rfl

theorem mem_words_pow {n : Nat} {w : List Char} :
    w ∈ t.words ^ n ↔ w.length = n ∧ ∀ c ∈ w, t.holds c = true := by
  induction n generalizing w with
  | zero =>
      rw [pow_zero, Language.mem_one, List.length_eq_zero_iff]
      exact iff_self_and.mpr fun h => h ▸ List.forall_mem_nil _
  | succ n ih =>
      rw [pow_succ', Language.mem_mul]
      cases w with
      | nil => simp [CharTest.mem_words]
      | cons c w =>
          constructor
          · rintro ⟨_, ⟨d, rfl, hd⟩, v, hv, heq⟩
            obtain ⟨rfl, rfl⟩ := List.cons.inj heq
            obtain ⟨hlength, hall⟩ := ih.mp hv
            exact ⟨congrArg (· + 1) hlength, List.forall_mem_cons.mpr ⟨hd, hall⟩⟩
          · rintro ⟨hlength, hall⟩
            obtain ⟨hc, hall⟩ := List.forall_mem_cons.mp hall
            exact ⟨[c], ⟨c, rfl, hc⟩, w, ih.mpr ⟨Nat.succ.inj hlength, hall⟩, rfl⟩

/-- The words of so many characters that pass a test. -/
theorem mem_repeated_words {least : Nat} {most : Option Nat} {w : List Char} :
    w ∈ repeated t.words least most ↔
      InBounds least most w.length ∧ ∀ c ∈ w, t.holds c = true := by
  simp only [mem_repeated, mem_words_pow]
  constructor
  · rintro ⟨n, hn, rfl, hall⟩
    exact ⟨hn, hall⟩
  · rintro ⟨hn, hall⟩
    exact ⟨w.length, hn, rfl, hall⟩

/-- At most one word. -/
theorem mem_repeated_optional {w : List Char} : w ∈ repeated l 0 (some 1) ↔ w = [] ∨ w ∈ l := by
  rw [mem_repeated]
  constructor
  · rintro ⟨n, ⟨-, hmost⟩, hw⟩
    rcases Nat.le_one_iff_eq_zero_or_eq_one.mp (hmost 1 rfl) with rfl | rfl
    · rw [pow_zero, Language.mem_one] at hw
      exact .inl hw
    · rw [pow_one] at hw
      exact .inr hw
  · rintro (rfl | hw)
    · exact ⟨0, ⟨Nat.le_refl 0, by simp⟩, Language.nil_mem_one⟩
    · exact ⟨1, ⟨Nat.zero_le 1, by simp⟩, by rwa [pow_one]⟩

/-! ### Of one test -/

theorem runLength_append (bound : Nat) :
    runLength (before ++ after).toArray t bound before.length =
      min bound (after.takeWhile t.holds).length := by
  induction bound generalizing before after with
  | zero => rw [runLength, Nat.zero_min]
  | succ bound ih =>
      cases after with
      | nil => simp [runLength]
      | cons c after =>
          have hmoved : before ++ c :: after = (before ++ [c]) ++ after := by simp
          have hplace : before.length + 1 = (before ++ [c]).length := by simp
          rw [runLength, getElem?_place, hplace, hmoved, ih]
          by_cases hc : t.holds c = true
          · simp [hc]
          · simp [hc]

theorem isSome_fromLongest {least : Nat} {s : State} {n : Nat} :
    (fromLongest least s next n).isSome = true ↔
      ∃ k, least ≤ k ∧ k ≤ n ∧ (next { s with pos := s.pos + k }).isSome = true := by
  induction n with
  | zero =>
      rw [fromLongest]
      split
      · case isTrue h => simp [h]
      · case isFalse h =>
          refine iff_of_false Bool.false_ne_true ?_
          rintro ⟨k, hleast, hk, -⟩
          omega
  | succ n ih =>
      rw [fromLongest]
      split
      · case isTrue h =>
          refine iff_of_false Bool.false_ne_true ?_
          rintro ⟨k, hleast, hk, -⟩
          omega
      · case isFalse h =>
          split
          · case h_1 r hr =>
              exact iff_of_true rfl ⟨n + 1, Nat.le_of_not_lt h, Nat.le_refl _, by rw [hr]; rfl⟩
          · case h_2 hnone =>
              rw [ih]
              refine exists_congr fun k => and_congr_right fun _ => ?_
              constructor
              · exact fun ⟨hk, hrun⟩ => ⟨Nat.le_succ_of_le hk, hrun⟩
              · rintro ⟨hk, hrun⟩
                refine ⟨Nat.lt_succ_iff.mp (lt_of_le_of_ne hk ?_), hrun⟩
                rintro rfl
                rw [hnone] at hrun
                exact absurd hrun Bool.false_ne_true

/-- How far a test goes on holding tells which beginnings it holds all through. -/
theorem le_length_takeWhile_iff {xs : List Char} {k : Nat} (hk : k ≤ xs.length) :
    k ≤ (xs.takeWhile t.holds).length ↔ ∀ c ∈ xs.take k, t.holds c = true := by
  induction xs generalizing k with
  | nil => simp [Nat.le_zero.mp hk]
  | cons x xs ih =>
      cases k with
      | zero => simp
      | succ k =>
          have hrest := ih (Nat.le_of_succ_le_succ hk)
          by_cases hx : t.holds x = true
          · simp [hx, hrest]
          · simp [hx]

/-- A repetition of a test matches so many characters that pass it. -/
theorem reads_rep_one (t : CharTest) (least : Nat) (most : Option Nat) :
    Reads (.rep least most .greedy (.one t)) (repeated t.words least most) := by
  intro before after groups next _
  have hleft : (before ++ after).toArray.size - before.length = after.length := by simp
  -- how many characters may be taken
  have hrun : ∀ k, k ≤ min ((most.map (min after.length)).getD after.length)
      (after.takeWhile t.holds).length ↔
      k ≤ after.length ∧ (∀ m ∈ most, k ≤ m) ∧ ∀ c ∈ after.take k, t.holds c = true := by
    intro k
    have hbound : k ≤ (most.map (min after.length)).getD after.length ↔
        k ≤ after.length ∧ ∀ m ∈ most, k ≤ m := by
      cases most with
      | none => simp
      | some m => simp
    rw [Nat.le_min, hbound, and_assoc]
    exact and_congr_right fun hk => and_congr_right fun _ => le_length_takeWhile_iff hk
  rw [run, repeatOne]
  simp only [hleft, runLength_append, mem_repeated_words]
  split
  · case isTrue hfew =>
      refine iff_of_false Bool.false_ne_true ?_
      rintro ⟨word, ⟨⟨hleast, hmost⟩, hall⟩, rest, rfl, -⟩
      refine absurd ((hrun word.length).mpr ⟨?_, hmost, ?_⟩) (by omega)
      · simp
      · simpa using hall
  · case isFalse =>
      rw [isSome_fromLongest]
      constructor
      · rintro ⟨k, hleast, hk, h⟩
        obtain ⟨hlength, hmost, hall⟩ := (hrun k).mp hk
        have htaken : (after.take k).length = k := List.length_take_of_le hlength
        refine ⟨after.take k, ⟨?_, hall⟩, after.drop k, (List.take_append_drop k after).symm, ?_⟩
        · rw [htaken]
          exact ⟨hleast, hmost⟩
        · rwa [List.length_append, htaken]
      · rintro ⟨word, ⟨⟨hleast, hmost⟩, hall⟩, rest, rfl, h⟩
        refine ⟨word.length, hleast, (hrun _).mpr ⟨by simp, hmost, by simpa using hall⟩, ?_⟩
        rwa [List.length_append] at h

/-! ### Of a language -/

section Repeat

variable {least count fuel : Nat} {most last : Option Nat} {s : State} {body : Matcher}

/-- A repetition takes a step that it has to take, or tries one before it ends. -/
theorem isSome_repeatFrom_succ :
    (repeatFrom body least most .greedy (fuel + 1) count last s next).isSome = true ↔
      if count < least then
        (body s fun s => repeatFrom body least most .greedy fuel (count + 1) last s next).isSome =
          true
      else
        (mayRepeat most count last s.pos = true ∧
          (body s fun t =>
            repeatFrom body least most .greedy fuel (count + 1) (some s.pos) t next).isSome =
              true) ∨
          (next s).isSome = true := by
  rw [repeatFrom]
  dsimp only
  split
  · rfl
  · split
    · case h_1 r hr =>
        refine iff_of_true rfl (.inl ?_)
        split at hr
        · case isTrue hmay => exact ⟨hmay, by rw [hr]; rfl⟩
        · exact nomatch hr
    · case h_2 hnone =>
        refine (or_iff_right ?_).symm
        rintro ⟨hmay, hstep⟩
        rw [if_pos hmay] at hnone
        rw [hnone] at hstep
        exact Bool.false_ne_true hstep

theorem Reads.ignoresGroups_repeatFrom (h : Reads p l) (hnext : IgnoresGroups cs next)
    (least : Nat) (most : Option Nat) (fuel count : Nat) (last : Option Nat) :
    IgnoresGroups cs fun s =>
      repeatFrom (run cs.toArray p) least most .greedy fuel count last s next := by
  induction fuel generalizing count last with
  | zero => exact fun _ _ _ _ _ hrun => hrun
  | succ fuel ih =>
      intro before after heq groups groups' hrun
      rw [isSome_repeatFrom_succ] at hrun ⊢
      split at hrun
      · case isTrue hfew =>
          rw [if_pos hfew]
          exact h.ignoresGroups (ih (count + 1) last) before after heq _ _ hrun
      · case isFalse hfew =>
          rw [if_neg hfew]
          refine hrun.imp (And.imp_right fun hstep => ?_) (hnext before after heq _ _)
          exact h.ignoresGroups (ih (count + 1) _) before after heq _ _ hstep

/-- So many words of a language stand behind a place, and one can go on behind them. -/
def IsFollowed (l : Language Char) (inBounds : Nat → Prop) (next : Next)
    (groups : List (Nat × Nat × Nat)) (before after : List Char) : Prop :=
  ∃ n, inBounds n ∧ ∃ word ∈ l ^ n, ∃ rest, after = word ++ rest ∧
    (next ⟨(before ++ word).length, groups⟩).isSome = true

/-- Either no word stands there, or some do. -/
theorem isFollowed_iff {inBounds : Nat → Prop} : IsFollowed l inBounds next groups before after ↔
    (inBounds 0 ∧ (next ⟨before.length, groups⟩).isSome = true) ∨
      ∃ n, inBounds (n + 1) ∧ IsFollowed l (· = n + 1) next groups before after := by
  constructor
  · rintro ⟨_ | n, hn, word, hword, rest, rfl, hrest⟩
    · rw [pow_zero, Language.mem_one] at hword
      rw [hword, List.append_nil] at hrest
      exact .inl ⟨hn, hrest⟩
    · exact .inr ⟨n, hn, n + 1, rfl, word, hword, rest, rfl, hrest⟩
  · rintro (⟨hzero, hend⟩ | ⟨_, hn, _, rfl, hrest⟩)
    · refine ⟨0, hzero, [], ?_, after, rfl, ?_⟩
      · rw [pow_zero]
        exact Language.nil_mem_one
      · rwa [List.append_nil]
    · exact ⟨_, hn, hrest⟩

/-- One word, and behind it the others. -/
theorem Reads.isFollowed_step (h : Reads p l) (inBounds : Nat → Prop) {go : Next}
    (hgo : IgnoresGroups (before ++ after) go)
    (hrest : ∀ word ∈ l, ∀ rest, after = word ++ rest →
      ((go ⟨(before ++ word).length, groups⟩).isSome = true ↔
        IsFollowed l (fun n => inBounds (n + 1)) next groups (before ++ word) rest)) :
    (run (before ++ after).toArray p ⟨before.length, groups⟩ go).isSome = true ↔
      ∃ n, inBounds (n + 1) ∧ IsFollowed l (· = n + 1) next groups before after := by
  rw [h before after groups go hgo]
  constructor
  · rintro ⟨u, hu, _, rfl, hrun⟩
    obtain ⟨n, hn, v, hv, rest, rfl, hend⟩ := (hrest u hu _ rfl).mp hrun
    refine ⟨n, hn, n + 1, rfl, u ++ v, ?_, rest, (List.append_assoc u v rest).symm, ?_⟩
    · rw [pow_succ']
      exact Language.append_mem_mul hu hv
    · rwa [← List.append_assoc]
  · rintro ⟨n, hn, _, rfl, word, hword, rest, rfl, hend⟩
    rw [pow_succ'] at hword
    obtain ⟨u, hu, v, hv, rfl⟩ := Language.mem_mul.mp hword
    have hcut := List.append_assoc u v rest
    rw [← List.append_assoc] at hend
    exact ⟨u, hu, v ++ rest, hcut, (hrest u hu _ hcut).mpr ⟨n, hn, v, hv, rest, rfl, hend⟩⟩

/-- A repetition may be taken once more below its bound, if it has moved since its last step. -/
theorem mayRepeat_iff {pos : Nat} (hlast : ∀ i ∈ last, i < pos) :
    mayRepeat most count last pos = true ↔ ∀ m ∈ most, count + 1 ≤ m := by
  have hmoved : last ≠ some pos := fun heq => lt_irrefl _ (hlast _ heq)
  rw [mayRepeat, Bool.and_eq_true, bne_iff_ne, and_iff_left hmoved, Option.all_eq_true]
  simp only [decide_eq_true_eq, Nat.lt_iff_add_one_le, Option.mem_def]

/-- What is left of a repetition that has been taken `count` times, if the place where its last step
began is behind. -/
theorem Reads.isSome_repeatFrom (h : Reads p l) (hl : [] ∉ l)
    (hnext : IgnoresGroups (before ++ after) next) (hfuel : after.length < fuel)
    (hlast : ∀ i ∈ last, i < before.length) (hleast : ∀ m ∈ most, least ≤ m)
    (hcount : ∀ m ∈ most, count ≤ m) :
    (repeatFrom (run (before ++ after).toArray p) least most .greedy fuel count last
        ⟨before.length, groups⟩ next).isSome = true ↔
      IsFollowed l (fun n => InBounds least most (count + n)) next groups before after := by
  induction fuel generalizing count last before after groups with
  | zero => exact absurd hfuel (Nat.not_lt_zero _)
  | succ fuel ih =>
      -- a step takes a word that is not empty, so that less is left
      have hstep : ∀ last' : Option Nat, (∀ i ∈ last', i ≤ before.length) →
          (∀ m ∈ most, count + 1 ≤ m) →
          ((run (before ++ after).toArray p ⟨before.length, groups⟩ fun s =>
              repeatFrom (run (before ++ after).toArray p) least most .greedy fuel (count + 1) last'
                s next).isSome = true ↔
            ∃ n, InBounds least most (count + (n + 1)) ∧
              IsFollowed l (· = n + 1) next groups before after) := by
        intro last' hlast' hcount'
        refine h.isFollowed_step (fun n => InBounds least most (count + n))
          (h.ignoresGroups_repeatFrom hnext least most fuel _ last') ?_
        rintro word hword rest rfl
        have hpos : 0 < word.length := List.length_pos_iff.mpr fun hnil => hl (hnil ▸ hword)
        have hless : rest.length < fuel := by
          rw [List.length_append] at hfuel
          omega
        have hbehind : ∀ i ∈ last', i < (before ++ word).length := fun i hi => by
          rw [List.length_append]
          exact (hlast' i hi).trans_lt (Nat.lt_add_of_pos_right hpos)
        rw [← List.append_assoc] at hnext ⊢
        simp only [← Nat.add_assoc, Nat.add_right_comm count _ 1]
        exact ih hnext hless hbehind hcount'
      rw [isSome_repeatFrom_succ, isFollowed_iff]
      split
      · case isTrue hfew =>
          rw [hstep last (fun i hi => (hlast i hi).le) fun m hm => hfew.trans_le (hleast m hm)]
          exact (or_iff_right fun hdone => absurd hdone.1.1 (Nat.not_le_of_lt hfew)).symm
      · case isFalse hfew =>
          have hbegun : ∀ i ∈ some before.length, i ≤ before.length :=
            fun i hi => (Option.some.inj hi).ge
          have hdone : InBounds least most (count + 0) := ⟨Nat.le_of_not_lt hfew, hcount⟩
          rw [mayRepeat_iff hlast, and_congr_right (hstep _ hbegun), and_iff_right hdone, or_comm]
          refine or_congr_right (and_iff_right_of_imp ?_)
          rintro ⟨n, hn, -⟩ m hm
          exact Nat.le_trans (by omega) (hn.2 m hm)

end Repeat

/-- A repetition matches so many words of a language, if none of them is empty. -/
theorem Reads.rep (h : Reads p l) (hp : ∀ t, p ≠ .one t) (hl : [] ∉ l) {least : Nat}
    {most : Option Nat} (hleast : ∀ m ∈ most, least ≤ m) :
    Reads (.rep least most .greedy p) (repeated l least most) := by
  intro before after groups next hnext
  have hfuel : after.length < least + (before ++ after).toArray.size + 3 := by
    rw [List.size_toArray, List.length_append]
    omega
  rw [run]
  · rw [h.isSome_repeatFrom hl hnext hfuel (by simp) hleast fun _ _ => Nat.zero_le _]
    simp only [Nat.zero_add]
    constructor
    · rintro ⟨n, hn, word, hword, hrest⟩
      exact ⟨word, ⟨n, hn, hword⟩, hrest⟩
    · rintro ⟨word, ⟨n, hn, hword⟩, hrest⟩
      exact ⟨n, hn, word, hword, hrest⟩
  · exact hp

/-! ## Up to the end of a text -/

theorem Reads.ignoresGroups_toEnd (h : Reads p l) (cs : List Char) :
    IgnoresGroups cs fun s => run cs.toArray (.seq p (.anchor .lastLineEnd)) s some := by
  have hend := h.ignoresGroups (ignoresGroups_anchor (a := .lastLineEnd) (ignoresGroups_some cs))
  exact hend

/-- A pattern matches up to the end of a text where a word is all that is left, or all but a line
break. -/
theorem Reads.isSome_run_toEnd (h : Reads p l) :
    (run (before ++ after).toArray (.seq p (.anchor .lastLineEnd)) ⟨before.length, groups⟩
        some).isSome = true ↔ ∃ word ∈ l, after = word ∨ after = word ++ ['\n'] := by
  rw [run_seq, h before after groups _ (ignoresGroups_anchor (ignoresGroups_some _))]
  refine exists_congr fun word => and_congr_right fun _ => ?_
  constructor
  · rintro ⟨rest, rfl, hend⟩
    rw [← List.append_assoc, isSome_run_anchor, holds_lastLineEnd] at hend
    rcases hend.1 with rfl | rfl
    · exact .inl (List.append_nil word)
    · exact .inr rfl
  · rintro (rfl | rfl)
    · have hend : Anchor.lastLineEnd.holds (before ++ after ++ []).toArray
          (before ++ after).length = true := holds_lastLineEnd.mpr (.inl rfl)
      rw [List.append_nil] at hend
      exact ⟨[], (List.append_nil _).symm, isSome_run_anchor.mpr ⟨hend, rfl⟩⟩
    · refine ⟨['\n'], rfl, isSome_run_anchor.mpr ⟨?_, rfl⟩⟩
      rw [← List.append_assoc]
      exact holds_lastLineEnd.mpr (.inr rfl)

end Qualify.Pattern
