import Mathlib.Data.List.Infix
import Qualify.Pattern.Match

/-!
# What patterns of texts match

A matcher tries one way after the other, with what is to follow at hand.  For texts, alternatives
and assertions about one character that comes to plain statements about the text on both sides of a
place: a text matches where the rest starts with it (`isSome_run_exactly`), one of several patterns
where some of them does with what follows (`isSome_run_oneOf`), and an assertion looks at the
neighbouring character.  So one of several texts, kept apart from characters of a kind, is found
exactly where one of them stands between such neighbours (`occursIn_apart_iff`), in whatever order
they are tried.
-/

namespace Qualify.Pattern

/-- A character as it is. -/
def character (c : Char) : Pattern := .one (.point .none c.toNat false)

/-- A text as it is. -/
def exactly : List Char → Pattern
  | [] => .empty
  | [c] => character c
  | c :: cs => .seq (character c) (exactly cs)

/-- Alternatives in the order in which they are tried. -/
def oneOf : List Pattern → Pattern
  | [] => .empty
  | [p] => p
  | p :: ps => .alt p (oneOf ps)

/-- A pattern with no character of a kind right before or behind it. -/
def apart (t : CharTest) (p : Pattern) : Pattern :=
  .seq (.behind true 1 (.one t)) (.seq p (.ahead true (.one t)))

variable {before after : List Char} {p q : Pattern} {t : CharTest} {next : Next}
variable {groups : List (Nat × Nat × Nat)}

/-! ## Step by step -/

section Steps

variable {text : Array Char} {s : State}

theorem run_empty : run text .empty s next = next s := rfl

theorem run_one : run text (.one t) s next =
    match text[s.pos]? with
    | some c => if t.holds c then next { s with pos := s.pos + 1 } else none
    | none => none := rfl

theorem run_anchor {a : Anchor} :
    run text (.anchor a) s next = if a.holds text s.pos then next s else none := rfl

theorem run_seq : run text (.seq p q) s next = run text p s fun s => run text q s next := rfl

theorem run_alt : run text (.alt p q) s next =
    match run text p s next with
    | some r => some r
    | none => run text q s next := rfl

theorem run_group {n : Nat} : run text (.group n p) s next =
    run text p s fun u => next { u with groups := (n, s.pos, u.pos) :: u.groups } := rfl

theorem run_ahead {negated : Bool} : run text (.ahead negated p) s next =
    match run text p s some with
    | some u => if negated then none else next { u with pos := s.pos }
    | none => if negated then next s else none := rfl

theorem run_behind {negated : Bool} {width : Nat} : run text (.behind negated width p) s next =
    match if width ≤ s.pos then run text p { s with pos := s.pos - width } some else none with
    | some u => if negated then none else next { u with pos := s.pos }
    | none => if negated then next s else none := rfl

end Steps

/-! ## One pattern at one place -/

/-- What stands at a place is the first character of what is left. -/
theorem getElem?_place (before after : List Char) :
    (before ++ after).toArray[before.length]? = after.head? := by
  rw [List.getElem?_toArray, List.getElem?_append_right (Nat.le_refl _), Nat.sub_self,
    List.head?_eq_getElem?]

/-- A test looks at the first character of what is left. -/
theorem run_one_append :
    run (before ++ after).toArray (.one t) ⟨before.length, groups⟩ next =
      if after.head?.any t.holds then next ⟨before.length + 1, groups⟩ else none := by
  rw [run_one, getElem?_place]
  cases after with
  | nil => rfl
  | cons c after => rfl

theorem holds_character {c d : Char} :
    (CharTest.point .none c.toNat false).holds d = true ↔ d = c := by
  simp [CharTest.holds, Folding.same, Folding.isCased, Char.toNat_inj]

theorem isSome_run_character {c : Char} :
    (run (before ++ after).toArray (character c) ⟨before.length, groups⟩ next).isSome = true ↔
      ∃ rest, after = c :: rest ∧ (next ⟨before.length + 1, groups⟩).isSome = true := by
  rw [character, run_one_append]
  cases after with
  | nil => simp
  | cons d after =>
      simp only [List.head?_cons, Option.any_some, holds_character, List.cons.injEq]
      by_cases h : d = c
      · simp [h]
      · simp [h]

/-- A text matches where the rest starts with it. -/
theorem isSome_run_exactly {term : List Char} :
    (run (before ++ after).toArray (exactly term) ⟨before.length, groups⟩ next).isSome = true ↔
      ∃ rest, after = term ++ rest ∧
        (next ⟨(before ++ term).length, groups⟩).isSome = true := by
  fun_induction exactly term generalizing before after with
  | case1 => simp [run_empty]
  | case2 c =>
      rw [isSome_run_character, List.length_append]
      rfl
  | case3 c cs _ ih =>
      -- the place moves past the first character, and so does the cut
      have hmoved : ∀ rest, before ++ c :: rest = (before ++ [c]) ++ rest := by simp
      have hlength : before.length + 1 = (before ++ [c]).length := by simp
      rw [run_seq, isSome_run_character]
      constructor
      · rintro ⟨rest, rfl, h⟩
        rw [hmoved, hlength, ih] at h
        obtain ⟨rest, rfl, h⟩ := h
        exact ⟨rest, rfl, by rwa [hmoved]⟩
      · rintro ⟨rest, rfl, h⟩
        refine ⟨cs ++ rest, rfl, ?_⟩
        rw [List.cons_append, hmoved, hlength, ih]
        exact ⟨rest, rfl, by rwa [hmoved] at h⟩

/-- One of several patterns matches where some of them does with what follows. -/
theorem isSome_run_oneOf {text : Array Char} {s : State} {ps : List Pattern} (hps : ps ≠ []) :
    (run text (oneOf ps) s next).isSome = true ↔ ∃ p ∈ ps, (run text p s next).isSome = true := by
  fun_induction oneOf ps with
  | case1 => exact absurd rfl hps
  | case2 p => simp
  | case3 p ps hne ih =>
      rw [run_alt, List.exists_mem_cons_iff, ← ih hne]
      cases run text p s next with
      | some r => simp
      | none => simp

/-- No character of the kind may stand just before the place. -/
theorem isSome_run_notBehind :
    (run (before ++ after).toArray (.behind true 1 (.one t)) ⟨before.length, groups⟩ next).isSome =
      true ↔ (∀ c ∈ before.getLast?, t.holds c = false) ∧
        (next ⟨before.length, groups⟩).isSome = true := by
  rw [run_behind]
  rcases List.eq_nil_or_concat' before with rfl | ⟨before, c, rfl⟩
  · simp
  · have hlength : (before ++ [c]).length - 1 = before.length := by simp
    have hcut : before ++ [c] ++ after = before ++ c :: after := by simp
    rw [if_pos (by simp), hlength, hcut, run_one_append]
    cases h : t.holds c with
    | true => simp [h]
    | false => simp [h]

/-- No character of the kind may stand right behind the place. -/
theorem isSome_run_notAhead :
    (run (before ++ after).toArray (.ahead true (.one t)) ⟨before.length, groups⟩ next).isSome =
      true ↔ (∀ c ∈ after.head?, t.holds c = false) ∧
        (next ⟨before.length, groups⟩).isSome = true := by
  rw [run_ahead, run_one_append]
  cases after with
  | nil => simp
  | cons c after =>
      cases h : t.holds c with
      | true => simp [h]
      | false => simp [h]

/-! ## One pattern somewhere in a text -/

theorem occursFrom_iff {text : Array Char} {left pos : Nat} :
    occursFrom p text left pos = true ↔
      ∃ k ≤ left, (run text p ⟨pos + k, []⟩ some).isSome = true := by
  induction left generalizing pos with
  | zero => simp [occursFrom]
  | succ left ih =>
      rw [occursFrom, Bool.or_eq_true, ih]
      constructor
      · rintro (h | ⟨k, hk, h⟩)
        · exact ⟨0, Nat.zero_le _, h⟩
        · refine ⟨k + 1, Nat.succ_le_succ hk, ?_⟩
          rwa [Nat.add_assoc, Nat.add_comm 1] at h
      · rintro ⟨k, hk, h⟩
        cases k with
        | zero => exact .inl h
        | succ k =>
            refine .inr ⟨k, Nat.le_of_succ_le_succ hk, ?_⟩
            rwa [Nat.add_assoc, Nat.add_comm 1]

/-- A pattern is found in a text where it matches behind some part of it. -/
theorem occursIn_iff {text : String} :
    p.occursIn text = true ↔ ∃ before after, text.toList = before ++ after ∧
      (run (before ++ after).toArray p ⟨before.length, []⟩ some).isSome = true := by
  unfold occursIn
  simp only [occursFrom_iff, Nat.zero_add, List.size_toArray]
  constructor
  · rintro ⟨k, hk, h⟩
    refine ⟨text.toList.take k, text.toList.drop k, (List.take_append_drop k _).symm, ?_⟩
    rwa [List.take_append_drop, List.length_take, Nat.min_eq_left hk]
  · rintro ⟨before, after, heq, h⟩
    rw [heq]
    exact ⟨before.length, by simp, h⟩

/-- One of several texts is found apart from characters of a kind exactly where one of them stands
in the text, and what is before it and behind it does not end, or start, with such a character. -/
theorem occursIn_apart_iff {terms : List (List Char)} (hterms : terms ≠ []) {text : String} :
    (apart t (oneOf (terms.map exactly))).occursIn text = true ↔
      ∃ term ∈ terms, ∃ before after, text.toList = before ++ term ++ after ∧
        (∀ c ∈ before.getLast?, t.holds c = false) ∧ ∀ c ∈ after.head?, t.holds c = false := by
  have hmap : terms.map exactly ≠ [] := by simpa using hterms
  have hplace : ∀ before after,
      (run (before ++ after).toArray (apart t (oneOf (terms.map exactly))) ⟨before.length, []⟩
          some).isSome = true ↔ (∀ c ∈ before.getLast?, t.holds c = false) ∧ ∃ term ∈ terms,
        ∃ rest, after = term ++ rest ∧ ∀ c ∈ rest.head?, t.holds c = false := by
    intro before after
    rw [apart, run_seq, isSome_run_notBehind, run_seq, isSome_run_oneOf hmap]
    simp only [List.mem_map, exists_exists_and_eq_and, isSome_run_exactly]
    refine and_congr_right fun _ => exists_congr fun term => and_congr_right fun _ =>
      exists_congr fun rest => and_congr_right ?_
    rintro rfl
    rw [← List.append_assoc, isSome_run_notAhead]
    simp
  rw [occursIn_iff]
  simp only [hplace]
  constructor
  · rintro ⟨before, _, heq, hbefore, term, hterm, after, rfl, hafter⟩
    exact ⟨term, hterm, before, after, by rw [heq, List.append_assoc], hbefore, hafter⟩
  · rintro ⟨term, hterm, before, after, heq, hbefore, hafter⟩
    exact ⟨before, term ++ after, by rw [heq, List.append_assoc], hbefore, term, hterm, after, rfl,
      hafter⟩

end Qualify.Pattern
