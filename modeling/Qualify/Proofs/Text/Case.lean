import Mathlib.Data.List.DropRight
import Mathlib.Data.List.Forall2
import Qualify.Text.Blank
import Qualify.Text.Case

/-!
# Lower case stays lower case

A text in lower case is its own lower case (`lower_lower`), and bringing a text into lower case
turns nothing into a blank, so that a text without blanks at its ends has none there afterwards
(`trim_lower_trim`).  Both come from one look at the table: no run reaches what a run maps to.

Only a capital sigma looks at its neighbours.  `lowerBetween` is the lower case of a piece of a text
with these at hand, so that the lower case of a text is put together from those of its pieces
(`lowerAfter_append`).
-/

namespace Qualify.Text

/-! ## The table -/

namespace CaseRun

variable {r s : CaseRun} {n : Nat}

/-- The code points that a run maps. -/
def points (r : CaseRun) : List Nat :=
  (List.range ((r.last - r.first) / r.step + 1)).map fun i => r.first + r.step * i

def image (r : CaseRun) (n : Nat) : Nat := (n + r.offset).toNat

/-- Do the images of a run lie on one side of a range? -/
def clears (r : CaseRun) (range : Nat × Nat) : Bool :=
  Nat.blt (r.image r.last) range.1 || Nat.blt range.2 (r.image r.first)

/-- Does the run `s` map no image of the run `r`? -/
def avoids (r s : CaseRun) : Bool :=
  r.clears (s.first, s.last) || r.points.all fun n => !s.covers (r.image n)

theorem bounds_of_covers (h : r.covers n = true) : r.first ≤ n ∧ n ≤ r.last := by
  simp only [covers, Bool.and_eq_true, decide_eq_true_eq] at h
  exact h.1

theorem mem_points (h : r.covers n = true) : n ∈ r.points := by
  obtain ⟨hfirst, hlast⟩ := bounds_of_covers h
  simp only [covers, Bool.and_eq_true, beq_iff_eq] at h
  have hdiv : r.step * ((n - r.first) / r.step) = n - r.first :=
    Nat.mul_div_cancel' (Nat.dvd_of_mod_eq_zero h.2)
  apply List.mem_map.mpr
  refine ⟨(n - r.first) / r.step, ?_, by omega⟩
  rw [List.mem_range, Nat.lt_succ_iff]
  exact Nat.div_le_div_right (by omega)

theorem image_lt_or_lt_of_clears {low high : Nat} (h : r.clears (low, high) = true)
    (hcovers : r.covers n = true) : r.image n < low ∨ high < r.image n := by
  obtain ⟨hfirst, hlast⟩ := bounds_of_covers hcovers
  simp only [clears, image, Bool.or_eq_true, Nat.blt_eq] at h ⊢
  omega

theorem covers_image_of_avoids (h : r.avoids s = true) (hcovers : r.covers n = true) :
    s.covers (r.image n) = false := by
  rw [avoids, Bool.or_eq_true, List.all_eq_true] at h
  rcases h with h | h
  · have hside := image_lt_or_lt_of_clears h hcovers
    by_contra hs
    have hbounds := bounds_of_covers (eq_true_of_ne_false hs)
    omega
  · simpa using h n (mem_points hcovers)

end CaseRun

/-- A list of runs leaves a code point alone unless one of the runs maps it. -/
theorem mapByRuns_cases (rs : List CaseRun) (n : Nat) :
    mapByRuns rs n = n ∨ ∃ r ∈ rs, r.covers n = true ∧ mapByRuns rs n = r.image n := by
  induction rs with
  | nil => exact .inl rfl
  | cons r rs ih =>
      unfold mapByRuns
      split
      · exact .inl rfl
      · split
        · rename_i h
          exact .inr ⟨r, List.mem_cons_self, h, rfl⟩
        · rcases ih with h | ⟨s, hs, hcovers, h⟩
          · exact .inl h
          · exact .inr ⟨s, List.mem_cons_of_mem r hs, hcovers, h⟩

theorem mapByRuns_eq_self {rs : List CaseRun} {n : Nat} (h : ∀ r ∈ rs, r.covers n = false) :
    mapByRuns rs n = n := by
  rcases mapByRuns_cases rs n with hn | ⟨r, hr, hcovers, -⟩
  · exact hn
  · rw [h r hr] at hcovers
    cases hcovers

/-- No run of the table maps what a run of the table maps to. -/
theorem lowerRuns_avoid : (lowerRuns.all fun r => lowerRuns.all fun s => r.avoids s) = true := by
  decide +kernel

/-- What no run of the table maps to: the capital I with a dot, the code points that are no
characters, and the blanks. -/
def unreachedRanges : Ranges := (0x130, 0x130) :: (0xD800, 0xDFFF) :: blankRanges

theorem lowerRuns_clear :
    (lowerRuns.all fun r => Nat.blt (r.image r.last) 0x110000 && unreachedRanges.all r.clears) =
      true := by
  decide +kernel

section Image

variable {r : CaseRun} {n : Nat} (hr : r ∈ lowerRuns) (hcovers : r.covers n = true)
include hr hcovers

theorem mapByRuns_image : mapByRuns lowerRuns (r.image n) = r.image n := by
  apply mapByRuns_eq_self
  intro s hs
  have h := lowerRuns_avoid
  simp only [List.all_eq_true] at h
  exact CaseRun.covers_image_of_avoids (h r hr s hs) hcovers

theorem image_lt_or_lt (low high : Nat) (h : (low, high) ∈ unreachedRanges) :
    r.image n < low ∨ high < r.image n := by
  have hall := lowerRuns_clear
  simp only [List.all_eq_true, Bool.and_eq_true] at hall
  exact CaseRun.image_lt_or_lt_of_clears ((hall r hr).2 _ h) hcovers

theorem isValidChar_image : (r.image n).isValidChar := by
  have hall := lowerRuns_clear
  simp only [List.all_eq_true, Bool.and_eq_true, Nat.blt_eq] at hall
  obtain ⟨-, hlast⟩ := CaseRun.bounds_of_covers hcovers
  have htop : r.image r.last < 0x110000 := (hall r hr).1
  have hside := image_lt_or_lt hr hcovers 0xD800 0xDFFF (by decide)
  unfold CaseRun.image at htop hside ⊢
  unfold Nat.isValidChar
  omega

end Image

/-! ## Single characters -/

theorem covers_eq_false_of_sides {rs : Ranges} {n : Nat}
    (h : ∀ low high, (low, high) ∈ rs → n < low ∨ high < n) : rs.covers n = false := by
  induction rs with
  | nil => rfl
  | cons range rs ih =>
      have hrest := ih fun low high hmem => h low high (List.mem_cons_of_mem range hmem)
      have hside := h range.1 range.2 List.mem_cons_self
      rw [Ranges.covers_cons, hrest, Bool.or_false, Bool.and_eq_false_iff, decide_eq_false_iff_not,
        decide_eq_false_iff_not]
      omega

theorem toNat_ofNat {n : Nat} (h : n.isValidChar) : (Char.ofNat n).toNat = n := by
  rw [Char.ofNat, dif_pos h]
  rfl

/-- A character that lower case leaves alone wherever it stands. -/
structure IsLower (c : Char) : Prop where
  ne_sigma : c ≠ '\u03A3'
  ne_dottedI : c ≠ '\u0130'
  lowerChar_eq : lowerChar c = c

variable {c d : Char} {before after cs : List Char}

/-- The lower case of a character is the character itself, or what a run of the table maps it to. -/
theorem lowerChar_cases (h : c ≠ '\u0130') :
    lowerChar c = c ∨ ∃ r ∈ lowerRuns, r.covers c.toNat = true ∧
      (lowerChar c).toNat = r.image c.toNat := by
  have hpoint : lowerPoint c.toNat = mapByRuns lowerRuns c.toNat :=
    if_neg fun hn => h (Char.toNat_inj.mp hn)
  unfold lowerChar
  rw [hpoint]
  rcases mapByRuns_cases lowerRuns c.toNat with hself | ⟨r, hr, hcovers, himage⟩
  · rw [hself]
    exact .inl (Char.ofNat_toNat c)
  · rw [himage]
    exact .inr ⟨r, hr, hcovers, toNat_ofNat (isValidChar_image hr hcovers)⟩

/-- A run of the table maps the capital sigma, and so none maps to it. -/
theorem isLower_lowerChar (hsigma : c ≠ '\u03A3') (hdotted : c ≠ '\u0130') :
    IsLower (lowerChar c) := by
  rcases lowerChar_cases hdotted with hself | ⟨r, hr, hcovers, himage⟩
  · rw [hself]
    exact ⟨hsigma, hdotted, hself⟩
  · have hfixed := mapByRuns_image hr hcovers
    have hside := image_lt_or_lt hr hcovers 0x130 0x130 (by decide)
    rw [← himage] at hfixed hside
    have hne : (lowerChar c).toNat ≠ 0x130 := by omega
    refine ⟨?_, ?_, ?_⟩
    · intro h
      rw [h] at hfixed
      exact absurd hfixed (by decide)
    · intro h
      rw [h] at hne
      exact hne rfl
    · rw [lowerChar, lowerPoint, if_neg hne, hfixed, Char.ofNat_toNat]

theorem isBlank_lowerChar (hdotted : c ≠ '\u0130') (h : isBlank c = false) :
    isBlank (lowerChar c) = false := by
  rcases lowerChar_cases hdotted with hself | ⟨r, hr, hcovers, himage⟩
  · rw [hself]
    exact h
  · apply covers_eq_false_of_sides
    intro low high hmem
    rw [himage]
    exact image_lt_or_lt hr hcovers low high (List.mem_cons_of_mem _ (List.mem_cons_of_mem _ hmem))

theorem isLower_of_mem_lowerInContext (h : d ∈ lowerInContext before c after) : IsLower d := by
  unfold lowerInContext at h
  split at h
  · rw [List.mem_singleton] at h
    subst h
    split
    · exact ⟨by decide, by decide, by decide⟩
    · exact ⟨by decide, by decide, by decide⟩
  · split at h
    · rw [List.mem_pair] at h
      rcases h with rfl | rfl
      · exact ⟨by decide, by decide, by decide⟩
      · exact ⟨by decide, by decide, by decide⟩
    · rename_i hsigma hdotted
      rw [List.mem_singleton] at h
      subst h
      exact isLower_lowerChar hsigma hdotted

theorem isBlank_of_mem_lowerInContext (hc : isBlank c = false)
    (h : d ∈ lowerInContext before c after) : isBlank d = false := by
  unfold lowerInContext at h
  split at h
  · rw [List.mem_singleton] at h
    subst h
    split
    · decide
    · decide
  · split at h
    · rw [List.mem_pair] at h
      rcases h with rfl | rfl
      · decide
      · decide
    · rename_i hdotted
      rw [List.mem_singleton] at h
      subst h
      exact isBlank_lowerChar hdotted hc

/-- A character that no run of the table maps to, and no form of an i or a sigma, stands in lower
case for itself only. -/
theorem eq_of_mem_lowerInContext
    (hclear : (lowerRuns.all fun r => r.clears (d.toNat, d.toNat)) = true)
    (hd : d ∉ ['\u03C2', '\u03C3', 'i', '\u0307']) (h : d ∈ lowerInContext before c after) :
    c = d := by
  simp only [List.mem_cons, List.not_mem_nil, or_false, not_or] at hd
  unfold lowerInContext at h
  split at h
  · rw [List.mem_singleton] at h
    split at h
    · exact absurd h hd.1
    · exact absurd h hd.2.1
  · split at h
    · exact absurd (List.mem_pair.mp h) (not_or.mpr hd.2.2)
    · case isFalse hdotted =>
        rw [List.mem_singleton] at h
        rcases lowerChar_cases hdotted with hself | ⟨r, hr, hcovers, himage⟩
        · exact hself.symm.trans h.symm
        · have hside := CaseRun.image_lt_or_lt_of_clears (List.all_eq_true.mp hclear r hr) hcovers
          rw [← himage, ← h] at hside
          omega

theorem lowerInContext_ne_nil : lowerInContext before c after ≠ [] := by
  unfold lowerInContext
  split
  · exact List.cons_ne_nil _ _
  · split
    · exact List.cons_ne_nil _ _
    · exact List.cons_ne_nil _ _

theorem lowerInContext_of_isLower (h : IsLower c) : lowerInContext before c after = [c] := by
  rw [lowerInContext, if_neg h.ne_sigma, if_neg h.ne_dottedI, h.lowerChar_eq]

/-! ## Texts -/

theorem isLower_of_mem_lowerAfter (h : d ∈ lowerAfter before cs) : IsLower d := by
  induction cs generalizing before with
  | nil => cases h
  | cons c cs ih =>
      rw [lowerAfter, List.mem_append] at h
      rcases h with h | h
      · exact isLower_of_mem_lowerInContext h
      · exact ih h

theorem lowerAfter_of_isLower (h : ∀ c ∈ cs, IsLower c) : lowerAfter before cs = cs := by
  induction cs generalizing before with
  | nil => rfl
  | cons c cs ih =>
      have hc : IsLower c := h c List.mem_cons_self
      rw [lowerAfter, lowerInContext_of_isLower hc, ih fun d hd => h d (List.mem_cons_of_mem c hd),
        List.singleton_append]

@[simp] theorem lower_lower (cs : List Char) : lower (lower cs) = lower cs :=
  lowerAfter_of_isLower fun _ => isLower_of_mem_lowerAfter

/-- Lower case of a piece of a text, between what stands before it, nearest first, and after it. -/
def lowerBetween (before : List Char) : List Char → List Char → List Char
  | [], _ => []
  | c :: cs, after => lowerInContext before c (cs ++ after) ++ lowerBetween (c :: before) cs after

theorem lowerAfter_append (before xs ys : List Char) :
    lowerAfter before (xs ++ ys) =
      lowerBetween before xs ys ++ lowerAfter (xs.reverse ++ before) ys := by
  induction xs generalizing before with
  | nil => rfl
  | cons x xs ih =>
      rw [List.cons_append, lowerAfter, ih, lowerBetween, List.reverse_cons, List.append_assoc,
        List.append_assoc, List.singleton_append]

/-- One of the two forms of the small sigma. -/
def IsSmallSigma (c : Char) : Prop := c = '\u03C3' ∨ c = '\u03C2'

instance : DecidablePred IsSmallSigma := fun _ => inferInstanceAs (Decidable (_ ∨ _))

/-- The same character, or both a small sigma. -/
def SameButSigma (c d : Char) : Prop := c = d ∨ IsSmallSigma c ∧ IsSmallSigma d

theorem lowerAfter_eq_lowerBetween (before cs : List Char) :
    lowerAfter before cs = lowerBetween before cs [] := by
  have h := lowerAfter_append before cs []
  rwa [List.append_nil, lowerAfter, List.append_nil] at h

theorem forall₂_lowerInContext (before before' : List Char) (c : Char) (after after' : List Char) :
    List.Forall₂ SameButSigma (lowerInContext before c after) (lowerInContext before' c after') := by
  have hform : ∀ b : Bool, IsSmallSigma (if b then '\u03C2' else '\u03C3') := by
    intro b
    cases b with
    | true => exact .inr rfl
    | false => exact .inl rfl
  unfold lowerInContext
  split
  · exact .cons (.inr ⟨hform _, hform _⟩) .nil
  · split
    · exact .cons (.inl rfl) (.cons (.inl rfl) .nil)
    · exact .cons (.inl rfl) .nil

/-- What stands around a piece of a text makes no difference to its lower case but for the form of
sigmas. -/
theorem forall₂_lowerBetween (cs : List Char) (before before' after after' : List Char) :
    List.Forall₂ SameButSigma (lowerBetween before cs after) (lowerBetween before' cs after') := by
  induction cs generalizing before before' with
  | nil => exact .nil
  | cons c cs ih =>
      exact List.rel_append (forall₂_lowerInContext before before' c _ _)
        (ih (c :: before) (c :: before'))

theorem forall₂_lower (before cs after : List Char) :
    List.Forall₂ SameButSigma (lowerBetween before cs after) (lower cs) := by
  rw [lower, lowerAfter_eq_lowerBetween]
  exact forall₂_lowerBetween cs before [] after []

theorem eq_of_sameButSigma {xs ys : List Char} (h : List.Forall₂ SameButSigma xs ys)
    (hys : ∀ c ∈ ys, ¬IsSmallSigma c) : xs = ys := by
  induction h with
  | nil => rfl
  | cons hcd _ ih =>
      have ⟨hd, htail⟩ := List.forall_mem_cons.mp hys
      obtain rfl | ⟨-, hsigma⟩ := hcd
      · rw [ih htail]
      · exact absurd hsigma hd

/-- A text without a sigma has one lower case only. -/
theorem lowerBetween_eq_lower (h : ∀ c ∈ lower cs, ¬IsSmallSigma c) :
    lowerBetween before cs after = lower cs :=
  eq_of_sameButSigma (forall₂_lower before cs after) h

/-! ## The ends of a text -/

/-- No character at either end satisfies `p`. -/
structure IsTrimmed (p : Char → Bool) (cs : List Char) : Prop where
  head : ∀ c ∈ cs.head?, p c = false
  last : ∀ c ∈ cs.getLast?, p c = false

theorem isTrimmed_trimBy (p : Char → Bool) (cs : List Char) : IsTrimmed p (trimBy p cs) where
  head := by
    intro c hc
    -- what stays of the tail without its end starts as that tail does
    obtain ⟨tail, htail⟩ : trimBy p cs <+: cs.dropWhile p := List.rdropWhile_prefix p _
    have hhead := List.head?_dropWhile_not p cs
    rw [← htail, List.head?_append, Option.mem_def.mp hc] at hhead
    exact hhead
  last := by
    intro c hc
    have hhead := List.head?_dropWhile_not p (cs.dropWhile p).reverse
    rw [trimBy, List.getLast?_reverse] at hc
    rw [Option.mem_def.mp hc] at hhead
    exact hhead

theorem IsTrimmed.trimBy_eq {p : Char → Bool} (h : IsTrimmed p cs) : trimBy p cs = cs := by
  have hdrop : cs.dropWhile p = cs := by
    cases cs with
    | nil => rfl
    | cons c cs => exact List.dropWhile_cons_of_neg (by simp [h.head c rfl])
  rw [trimBy, hdrop]
  apply List.rdropWhile_eq_self_iff.mpr
  intro hne
  simp [h.last _ (List.getLast?_eq_some_getLast hne)]

theorem isTrimmed_lower (h : IsTrimmed isBlank cs) : IsTrimmed isBlank (lower cs) where
  head := by
    intro d hd
    cases cs with
    | nil => cases hd
    | cons c cs =>
        have hc : isBlank c = false := h.head c rfl
        rw [lower, lowerAfter, List.head?_append_of_ne_nil _ lowerInContext_ne_nil] at hd
        exact isBlank_of_mem_lowerInContext hc (List.mem_of_mem_head? hd)
  last := by
    intro d hd
    rcases List.eq_nil_or_concat' cs with rfl | ⟨cs, c, rfl⟩
    · cases hd
    · have hc : isBlank c = false := h.last c List.getLast?_concat
      rw [lower, lowerAfter_append, lowerAfter, lowerAfter, List.append_nil,
        List.getLast?_append_of_ne_nil _ lowerInContext_ne_nil] at hd
      exact isBlank_of_mem_lowerInContext hc (List.mem_of_getLast? hd)

/-- Lower case leaves nothing to trim at the ends of a text that has been trimmed. -/
@[simp] theorem trim_lower_trim (cs : List Char) : trim (lower (trim cs)) = lower (trim cs) :=
  (isTrimmed_lower (isTrimmed_trimBy isBlank cs)).trimBy_eq

end Qualify.Text

namespace String

theorem toList_trimBlanks_lowerCase (s : String) :
    s.trimBlanks.lowerCase.toList = Qualify.Text.lower (Qualify.Text.trim s.toList) := by
  rw [lowerCase, trimBlanks, toList_ofList, toList_ofList]

/-- A text without blanks at its ends and in lower case stays as it is when both are asked for
again. -/
@[simp] theorem lowerCase_trimBlanks_idem (s : String) :
    s.trimBlanks.lowerCase.trimBlanks.lowerCase = s.trimBlanks.lowerCase := by
  apply String.toList_inj.mp
  simp only [toList_trimBlanks_lowerCase, Qualify.Text.trim_lower_trim, Qualify.Text.lower_lower]

end String
