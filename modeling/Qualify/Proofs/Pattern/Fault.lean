import Mathlib
import Qualify.Pattern.Reader

/-!
# What can go wrong in a pattern

A pattern that is not well-formed matches nothing.  Beyond that only three things can go wrong while
a pattern is read: a bound of a repetition has too many digits, or it is past the largest count, or
two alphabets are asked for.  Each of them can be seen in the pattern (`ofText_eq_error`): the bound
stands there in braces, the alphabets are letters in groups of flags.

The readers are walked through once, with one triple for each.  Along the way a state stays within
the tokens of its pattern: those to come are the last ones of the pattern, and an alphabet that is
in force was asked for there.
-/

namespace Qualify.Pattern

open Std.Do

set_option mvcgen.warning false

/-! ## What can be seen in a pattern -/

/-- A bound of a repetition in braces, with nothing else. -/
def oneBound (low : List Char) : List Token :=
  .plain '\x7b' :: (low.map .plain ++ [.plain '\x7d'])

/-- Two bounds of a repetition in braces. -/
def twoBounds (low high : List Char) : List Token :=
  .plain '\x7b' :: (low.map .plain ++ .plain ',' :: (high.map .plain ++ [.plain '\x7d']))

/-- A group of flags for the whole pattern. -/
def flagGroup (letters : List Char) : List Token :=
  .plain '(' :: .plain '?' :: (letters.map .plain ++ [.plain ')'])

/-- The digits stand somewhere as a bound of a repetition. -/
inductive IsBound (tokens : List Token) : List Char → Prop
  | only {low : List Char} : (∀ c ∈ low, c.isDigit) → oneBound low <:+: tokens →
      IsBound tokens low
  | low {low high : List Char} : (∀ c ∈ low, c.isDigit) → twoBounds low high <:+: tokens →
      IsBound tokens low
  | high {low high : List Char} : (∀ c ∈ high, c.isDigit) → twoBounds low high <:+: tokens →
      IsBound tokens high

/-- The letter stands somewhere in a group of flags for the whole pattern. -/
def IsFlag (tokens : List Token) (letter : Char) : Prop :=
  ∃ letters : List Char, letter ∈ letters ∧ flagGroup letters <:+: tokens

/-- What can go wrong while the tokens are read as a pattern, each with what it comes from. -/
inductive Fault.ArisesIn (tokens : List Token) : Fault → Prop
  | malformed : ArisesIn tokens .malformed
  | longNumeral {digits : List Char} : IsBound tokens digits → digitLimit < digits.length →
      ArisesIn tokens (.failed (.longNumeral digits.length))
  | repetition {digits : List Char} : IsBound tokens digits →
      Width.repeatLimit ≤ numberIn 10 digits → ArisesIn tokens (.failed .repetition)
  | incompatibleFlags : IsFlag tokens 'a' → IsFlag tokens 'u' →
      ArisesIn tokens (.failed .incompatibleFlags)

attribute [grind .] Fault.ArisesIn.malformed

/-! ## States within a pattern -/

/-- An alphabet among the flags was asked for in the pattern. -/
structure Flags.AreFrom (tokens : List Token) (f : Flags) : Prop where
  basic : f.basic = true → IsFlag tokens 'a'
  full : f.full = true → IsFlag tokens 'u'

/-- The rest of a pattern and the flags in force. -/
structure Within (tokens rest : List Token) (flags : Flags) : Prop where
  suffix : rest <:+ tokens
  flags_areFrom : flags.AreFrom tokens

/-- Nothing but what arises in the pattern goes wrong, and the state stays within the pattern. -/
abbrev staying (tokens : List Token) {α : Type} :
    PostCond α (.arg Progress (.except Fault .pure)) :=
  (fun _ s => ⌜Within tokens s.rest s.flags⌝, fun f => ⌜f.ArisesIn tokens⌝, ())

/-- From a state within the pattern a reader stays within it. -/
abbrev StaysWithin (tokens : List Token) {α : Type} (x : Reading α) : Prop :=
  ⦃fun s => ⌜Within tokens s.rest s.flags⌝⦄ x ⦃staying tokens⦄

variable {tokens taken rest rest' : List Token} {t : Token} {flags own f : Flags}

theorem Flags.AreFrom.or (h : own.AreFrom tokens) (hf : f.AreFrom tokens) :
    (own.or f).AreFrom tokens where
  basic hor := (Bool.or_eq_true_iff.mp hor).elim h.basic hf.basic
  full hor := (Bool.or_eq_true_iff.mp hor).elim h.full hf.full

namespace Within

theorem of_suffix (h : Within tokens rest own) (hs : rest' <:+ rest) : Within tokens rest' own :=
  ⟨hs.trans h.suffix, h.flags_areFrom⟩

@[grind →]
theorem of_append (h : Within tokens (taken ++ rest) own) : Within tokens rest own :=
  h.of_suffix (List.suffix_append taken rest)

@[grind →]
theorem of_cons (h : Within tokens (t :: rest) own) : Within tokens rest own :=
  h.of_suffix (List.suffix_cons t rest)

@[grind ←]
theorem drop (h : Within tokens rest own) (n : Nat) : Within tokens (rest.drop n) own :=
  h.of_suffix (List.drop_suffix n rest)

@[grind ←]
theorem tail (h : Within tokens rest own) : Within tokens rest.tail own :=
  h.of_suffix (List.tail_suffix rest)

@[grind ←]
theorem dropWhile (h : Within tokens rest own) (p : Token → Bool) :
    Within tokens (rest.dropWhile p) own :=
  h.of_suffix (List.dropWhile_suffix p)

@[grind ←]
theorem or (h : Within tokens rest own) (hf : f.AreFrom tokens) : Within tokens rest (own.or f) :=
  ⟨h.suffix, h.flags_areFrom.or hf⟩

theorem arisesIn_of_both (h : Within tokens rest own) (hboth : (own.basic && own.full) = true) :
    (Fault.failed .incompatibleFlags).ArisesIn tokens := by
  obtain ⟨hbasic, hfull⟩ := Bool.and_eq_true_iff.mp hboth
  exact .incompatibleFlags (h.flags_areFrom.basic hbasic) (h.flags_areFrom.full hfull)

end Within

/-! ## Single tokens -/

@[spec]
theorem throw_spec {α : Type} (f : Fault) {Q : PostCond α (.arg Progress (.except Fault .pure))} :
    ⦃fun _ => Q.2.1 f⦄ (throw f : Reading α) ⦃Q⦄ :=
  fun _ h => h

@[spec]
theorem malformed_spec {α : Type} {Q : PostCond α (.arg Progress (.except Fault .pure))} :
    ⦃fun _ => Q.2.1 .malformed⦄ (malformed : Reading α) ⦃Q⦄ :=
  fun _ h => h

@[spec]
theorem peek_spec (s₀ : Progress) :
    ⦃fun s => ⌜s = s₀⌝⦄ peek ⦃(fun r s => ⌜r = s₀.rest.head? ∧ s = s₀⌝, fun _ => ⌜False⌝, ())⦄ := by
  mvcgen [peek]
  all_goals grind

@[spec]
theorem take_spec (s₀ : Progress) :
    ⦃fun s => ⌜s = s₀⌝⦄ take
    ⦃(fun r s => ⌜s.flags = s₀.flags ∧ match r with
        | none => s₀.rest = [] ∧ s.rest = []
        | some t => s₀.rest = t :: s.rest⌝, fun _ => ⌜False⌝, ())⦄ := by
  mvcgen [take]
  all_goals grind

@[spec]
theorem accept_spec (c : Char) (s₀ : Progress) :
    ⦃fun s => ⌜s = s₀⌝⦄ accept c
    ⦃(fun r s => ⌜s.flags = s₀.flags ∧
        if r then s₀.rest = .plain c :: s.rest else s.rest = s₀.rest⌝, fun _ => ⌜False⌝, ())⦄ := by
  mvcgen [accept]
  all_goals grind

@[spec]
theorem takeWhile_spec (p : Char → Bool) (n : Nat) (s₀ : Progress) :
    ⦃fun s => ⌜s = s₀⌝⦄ takeWhile p n
    ⦃(fun cs s => ⌜(∀ c ∈ cs, p c) ∧ s₀.rest = cs.map .plain ++ s.rest ∧ s.flags = s₀.flags⌝,
      fun _ => ⌜False⌝, ())⦄ := by
  induction n generalizing s₀ with
  | zero =>
      mvcgen [takeWhile]
      all_goals grind
  | succ n ih =>
      mvcgen [takeWhile, ih]
      all_goals grind

@[spec]
theorem takeUntil_stays (close : Char) : StaysWithin tokens (takeUntil close) := by
  mvcgen [takeUntil]
  all_goals grind

/-! ## Escapes -/

@[spec]
theorem readHex_stays (digits : Nat) : StaysWithin tokens (readHex digits) := by
  mvcgen [readHex]
  all_goals grind

@[spec]
theorem pointEscape_stays (c : Char) : StaysWithin tokens (pointEscape c) := by
  mvcgen [pointEscape]
  all_goals grind

@[spec]
theorem octal_stays (first : Char) (more : Nat) : StaysWithin tokens (octal first more) := by
  mvcgen [octal]
  all_goals grind

@[spec]
theorem setEscape_stays (c : Char) : StaysWithin tokens (setEscape c) := by
  mvcgen [setEscape]

@[spec]
theorem checkReference_stays (n : Nat) : StaysWithin tokens (checkReference n) := by
  mvcgen [checkReference]
  all_goals grind

@[spec]
theorem reference_stays (n : Nat) : StaysWithin tokens (reference flags n) := by
  mvcgen [reference]

@[spec]
theorem numberEscape_stays (c : Char) : StaysWithin tokens (numberEscape flags c) := by
  mvcgen [numberEscape]
  all_goals grind

@[spec]
theorem itemEscape_stays (c : Char) : StaysWithin tokens (itemEscape flags c) := by
  mvcgen [itemEscape]

/-! ## Sets and repetitions -/

@[spec]
theorem setItem_stays (t : Token) : StaysWithin tokens (setItem t) := by
  mvcgen [setItem]

@[spec]
theorem setItems_stays (fuel : Nat) (first : Bool) : StaysWithin tokens (setItems fuel first) := by
  induction fuel generalizing first with
  | zero =>
      mvcgen [setItems]
      all_goals grind
  | succ fuel ih =>
      mvcgen [setItems, ih]
      all_goals grind

@[spec]
theorem readSet_stays : StaysWithin tokens (readSet flags) := by
  mvcgen [readSet]
  all_goals grind

@[spec]
theorem bound_spec (cs : List Char) (s₀ : Progress) :
    ⦃fun s => ⌜s = s₀⌝⦄ bound cs
    ⦃(fun _ s => ⌜s = s₀⌝, fun f => ⌜∀ tokens, IsBound tokens cs → f.ArisesIn tokens⌝, ())⦄ := by
  intro s hs
  unfold bound
  split
  · exact hs
  · split
    · case isTrue hlong => exact fun _ h => .longNumeral h hlong
    · dsimp only
      split
      · case isTrue hlarge => exact fun _ h => .repetition h hlarge
      · exact hs

section Bounds

variable {r₀ r₁ r₂ r₃ r₄ : List Token} {low high : List Char}

/-! What is read behind an opening brace, up to the closing one. -/

theorem isBound_only (h : Within tokens (.plain '\x7b' :: r₀) own)
    (h₀ : r₀ = low.map .plain ++ r₁) (h₁ : r₁ = .plain '\x7d' :: r₂)
    (hlow : ∀ c ∈ low, c.isDigit) : IsBound tokens low := by
  subst h₀ h₁
  obtain ⟨before, h⟩ := h.suffix
  exact .only hlow ⟨before, r₂, by simpa [oneBound] using h⟩

theorem infix_of_twoBounds (h : Within tokens (.plain '\x7b' :: r₀) own)
    (h₀ : r₀ = low.map .plain ++ r₁) (h₁ : r₁ = .plain ',' :: r₂)
    (h₂ : r₂ = high.map .plain ++ r₃) (h₃ : r₃ = .plain '\x7d' :: r₄) :
    twoBounds low high <:+: tokens := by
  subst h₀ h₁ h₂ h₃
  obtain ⟨before, h⟩ := h.suffix
  exact ⟨before, r₄, by simpa [twoBounds] using h⟩

theorem isBound_low (h : Within tokens (.plain '\x7b' :: r₀) own)
    (h₀ : r₀ = low.map .plain ++ r₁) (h₁ : r₁ = .plain ',' :: r₂)
    (h₂ : r₂ = high.map .plain ++ r₃) (h₃ : r₃ = .plain '\x7d' :: r₄)
    (hlow : ∀ c ∈ low, c.isDigit) : IsBound tokens low :=
  .low hlow (infix_of_twoBounds h h₀ h₁ h₂ h₃)

theorem isBound_high (h : Within tokens (.plain '\x7b' :: r₀) own)
    (h₀ : r₀ = low.map .plain ++ r₁) (h₁ : r₁ = .plain ',' :: r₂)
    (h₂ : r₂ = high.map .plain ++ r₃) (h₃ : r₃ = .plain '\x7d' :: r₄)
    (hhigh : ∀ c ∈ high, c.isDigit) : IsBound tokens high :=
  .high hhigh (infix_of_twoBounds h h₀ h₁ h₂ h₃)

end Bounds

@[spec]
theorem bounds_spec :
    ⦃fun s => ⌜Within tokens (.plain '\x7b' :: s.rest) s.flags⌝⦄ bounds ⦃staying tokens⦄ := by
  mvcgen [bounds]
  all_goals grind [isBound_only, isBound_low, isBound_high]

@[spec]
theorem readGreed_stays : StaysWithin tokens readGreed := by
  mvcgen [readGreed]
  all_goals grind

@[spec]
theorem readRepetition_stays (least : Nat) (most : Option Nat) (items : List Item) :
    StaysWithin tokens (readRepetition least most items) := by
  mvcgen [readRepetition]
  all_goals grind

/-! ## Groups -/

@[spec]
theorem openGroup_stays (name : Option String) : StaysWithin tokens (openGroup name) := by
  mvcgen [openGroup]
  all_goals grind

@[spec]
theorem closeGroup_stays (n : Nat) (w : Width) : StaysWithin tokens (closeGroup n w) := by
  mvcgen [closeGroup]

@[spec]
theorem readName_stays (close : Char) : StaysWithin tokens (readName close) := by
  mvcgen [readName]
  all_goals grind

@[spec]
theorem conditionGroup_stays : StaysWithin tokens conditionGroup := by
  mvcgen [conditionGroup]
  all_goals grind

@[spec]
theorem closeBracket_stays : StaysWithin tokens closeBracket := by
  mvcgen [closeBracket]
  all_goals grind

@[spec]
theorem skipComment_stays : StaysWithin tokens skipComment := by
  mvcgen [skipComment]
  all_goals grind

@[spec]
theorem skipLine_stays : StaysWithin tokens skipLine := by
  mvcgen [skipLine]
  all_goals grind

@[spec]
theorem behindItem_stays (negated : Bool) (i : Item) :
    StaysWithin tokens (behindItem negated i) := by
  mvcgen [behindItem]

/-! ## Flags -/

theorem Flags.eq_of_ofChar? {c : Char} (h : Flags.ofChar? c = some f) :
    (f.basic = true → c = 'a') ∧ (f.full = true → c = 'u') := by
  unfold Flags.ofChar? at h
  split at h
  all_goals cases h
  all_goals simp

/-- In the middle of a group of flags, with those that its letters have given so far. -/
structure InFlags (tokens rest : List Token) (own flags : Flags) : Prop
    extends Within tokens rest own where
  letters : ∃ letters : List Char,
    .plain '(' :: .plain '?' :: letters.map .plain ++ rest <:+ tokens ∧
      (flags.basic = true → 'a' ∈ letters) ∧ (flags.full = true → 'u' ∈ letters)

attribute [grind →] InFlags.toWithin

theorem Within.inFlags (h : Within tokens (.plain '(' :: .plain '?' :: rest) own) :
    InFlags tokens rest own {} where
  toWithin := h.of_cons.of_cons
  letters := ⟨[], h.suffix, by simp, by simp⟩

namespace InFlags

variable {c : Char}

/-- One more letter of the group, whatever flags it has or has not given. -/
theorem exists_letters (h : InFlags tokens (.plain c :: rest) own flags) :
    ∃ letters : List Char,
      .plain '(' :: .plain '?' :: (letters ++ [c]).map .plain ++ rest <:+ tokens ∧
        (flags.basic = true → 'a' ∈ letters) ∧ (flags.full = true → 'u' ∈ letters) := by
  obtain ⟨letters, hsuffix, hflags⟩ := h.letters
  exact ⟨letters, by simpa using hsuffix, hflags⟩

@[grind →]
theorem or (h : InFlags tokens (.plain c :: rest) own flags) (hf : Flags.ofChar? c = some f) :
    InFlags tokens rest own (flags.or f) := by
  obtain ⟨letters, hsuffix, hbasic, hfull⟩ := h.exists_letters
  obtain ⟨ha, hu⟩ := Flags.eq_of_ofChar? hf
  refine ⟨h.of_cons, letters ++ [c], hsuffix, fun hor => ?_, fun hor => ?_⟩
  · rcases Bool.or_eq_true_iff.mp hor with h | h
    · exact List.mem_append_left _ (hbasic h)
    · exact ha h ▸ List.mem_concat_self
  · rcases Bool.or_eq_true_iff.mp hor with h | h
    · exact List.mem_append_left _ (hfull h)
    · exact hu h ▸ List.mem_concat_self

/-- The flags that are taken away are read from the start, in the same group. -/
@[grind →]
theorem restart (h : InFlags tokens (.plain c :: rest) own flags) :
    InFlags tokens rest own {} := by
  obtain ⟨letters, hsuffix, -⟩ := h.exists_letters
  exact ⟨h.of_cons, letters ++ [c], hsuffix, by simp, by simp⟩

@[grind →]
theorem areFrom (h : InFlags tokens (.plain c :: rest) own flags) (hc : c = ')') :
    flags.AreFrom tokens := by
  subst hc
  obtain ⟨letters, ⟨before, hsuffix⟩, hbasic, hfull⟩ := h.letters
  have hgroup : flagGroup letters <:+: tokens :=
    ⟨before, rest, by simpa [flagGroup] using hsuffix⟩
  exact ⟨fun h => ⟨letters, hbasic h, hgroup⟩, fun h => ⟨letters, hfull h, hgroup⟩⟩

end InFlags

@[spec]
theorem readFlags_spec (mayChooseAlphabet : Bool) (fuel : Nat) (t : Token) (flags : Flags) :
    ⦃fun s => ⌜InFlags tokens (t :: s.rest) s.flags flags⌝⦄
    readFlags mayChooseAlphabet fuel t flags
    ⦃(fun r s => ⌜InFlags tokens (.plain r.2 :: s.rest) s.flags r.1⌝,
      fun f => ⌜f.ArisesIn tokens⌝, ())⦄ := by
  induction fuel generalizing t flags with
  | zero =>
      mvcgen [readFlags]
      all_goals grind
  | succ fuel ih =>
      mvcgen [readFlags, ih]
      all_goals grind

@[spec]
theorem readInlineFlags_spec (first : Char) :
    ⦃fun s => ⌜InFlags tokens (.plain first :: s.rest) s.flags {}⌝⦄ readInlineFlags first
    ⦃(fun r s => ⌜Within tokens s.rest s.flags ∧ ∀ f, r = .inl f → f.AreFrom tokens⌝,
      fun f => ⌜f.ArisesIn tokens⌝, ())⦄ := by
  mvcgen [readInlineFlags]
  all_goals grind

@[spec]
theorem readOpening_spec :
    ⦃fun s => ⌜Within tokens (.plain '(' :: s.rest) s.flags⌝⦄ readOpening flags
    ⦃(fun r s => ⌜Within tokens s.rest s.flags ∧ ∀ f, r = .flags f → f.AreFrom tokens⌝,
      fun f => ⌜f.ArisesIn tokens⌝, ())⦄ := by
  mvcgen [readOpening]
  all_goals grind [Within.inFlags]

/-! ## Whole patterns -/

/-- The readers that call each other, at some depth. -/
structure AllStayWithin (fuel : Nat) : Prop where
  alternatives (tokens : List Token) (outermost first : Bool) (flags : Flags) :
    StaysWithin tokens (readAlternatives outermost first flags fuel)
  sequence (tokens : List Token) (mayStart : Bool) (flags : Flags) (items : List Item) :
    StaysWithin tokens (readSequence mayStart flags items fuel)
  group (tokens : List Token) (flags : Flags) (opening : Opening) :
    StaysWithin tokens (readGroup flags opening fuel)

theorem allStayWithin_zero : AllStayWithin 0 := by
  constructor
  · intro tokens outermost first flags
    mvcgen [readAlternatives]
    all_goals grind
  · intro tokens mayStart flags items
    mvcgen [readSequence]
    all_goals grind
  · intro tokens flags opening
    mvcgen [readGroup]
    all_goals grind

theorem AllStayWithin.succ {fuel : Nat} (h : AllStayWithin fuel) : AllStayWithin (fuel + 1) := by
  obtain ⟨alternatives, sequence, group⟩ := h
  constructor
  · intro tokens outermost first flags
    mvcgen [readAlternatives, alternatives, sequence]
    all_goals grind
  · intro tokens mayStart flags items
    mvcgen [readSequence, sequence, group]
    all_goals grind
  · intro tokens flags opening
    mvcgen [readGroup, alternatives, sequence]
    all_goals grind

theorem allStayWithin (fuel : Nat) : AllStayWithin fuel := by
  induction fuel with
  | zero => exact allStayWithin_zero
  | succ fuel ih => exact ih.succ

theorem wholePattern_stays : StaysWithin tokens wholePattern := by
  have alternatives := fun fuel => (allStayWithin fuel).alternatives tokens
  mvcgen [wholePattern, alternatives, -Spec.throw_MonadExcept]
  all_goals grind [Within.arisesIn_of_both]

theorem StaysWithin.arisesIn_of_run {α : Type} {x : Reading α} {s : Progress} {f : Fault}
    (hx : StaysWithin tokens x) (hs : Within tokens s.rest s.flags) (h : x.run s = .error f) :
    f.ArisesIn tokens := by
  have hrun : (wp⟦x.run s⟧ (fun r => ⌜Within tokens r.2.rest r.2.flags⌝,
      fun f => ⌜f.ArisesIn tokens⌝, ())).down := hx s hs
  rw [h] at hrun
  exact hrun

/-- Where a text cannot be read as a pattern and is not just malformed, what stands in the way can
be seen in it: a bound with too many digits, a bound past the largest count, or both alphabets. -/
theorem ofText_eq_error {s : String} {f : Failure} (h : ofText s = .error f) :
    ∃ tokens, Token.ofChars s.toList = some tokens ∧ (Fault.failed f).ArisesIn tokens := by
  unfold ofText at h
  split at h
  · cases h
  · case h_2 tokens htokens =>
      have hstart : Within tokens tokens { ignoreCase := true } :=
        ⟨List.suffix_refl tokens, by simp, by simp⟩
      split at h
      · cases h
      · cases h
      · case h_3 g hrun =>
          cases h
          exact ⟨tokens, htokens, wholePattern_stays.arisesIn_of_run hstart hrun⟩

end Qualify.Pattern
