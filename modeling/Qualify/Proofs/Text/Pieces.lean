import Mathlib.Data.List.Infix
import Qualify.Text.Blank
import Qualify.Text.Pieces

/-!
# Pieces of a text

How a text falls into pieces at a separator, and into the maximal runs between separators of a kind.
A text that is put together from parts falls into the runs of its parts, unless a run goes on from
one part to the next (`fieldsBy_append`).
-/

namespace Qualify.Text

/-- A text with a separator between two parts falls into the pieces of both. -/
theorem splitOn_append (sep : Char) (xs ys : List Char) :
    splitOn sep (xs ++ sep :: ys) = splitOn sep xs ++ splitOn sep ys := by
  induction xs with
  | nil =>
      obtain ⟨p, ps, hpieces⟩ := List.exists_cons_of_ne_nil (splitOn_ne_nil sep ys)
      show splitOn sep (sep :: ys) = [] :: splitOn sep ys
      rw [splitOn, hpieces]
      exact if_pos rfl
  | cons x xs ih =>
      obtain ⟨p, ps, hpieces⟩ := List.exists_cons_of_ne_nil (splitOn_ne_nil sep xs)
      rw [List.cons_append, splitOn, ih, splitOn, hpieces]
      dsimp only [List.cons_append]
      split
      · rfl
      · rfl

/-- A text without a separator is one piece. -/
theorem splitOn_of_notMem {sep : Char} {xs : List Char} (h : sep ∉ xs) : splitOn sep xs = [xs] := by
  induction xs with
  | nil => rfl
  | cons x xs ih =>
      obtain ⟨hx, hxs⟩ := not_or.mp (List.mem_cons.not.mp h)
      rw [splitOn, ih hxs]
      exact if_neg (Ne.symm hx)

theorem joinWith_cons (sep p : List Char) {ps : List (List Char)} (h : ps ≠ []) :
    joinWith sep (p :: ps) = p ++ sep ++ joinWith sep ps := by
  cases ps with
  | nil => exact absurd rfl h
  | cons q ps => rfl

theorem joinWith_eq_intercalate (sep : List Char) (ps : List (List Char)) :
    joinWith sep ps = sep.intercalate ps := by
  induction ps with
  | nil => rfl
  | cons p ps ih =>
      cases ps with
      | nil => simp
      | cons q ps =>
          rw [joinWith_cons sep p (List.cons_ne_nil q ps), ih, List.intercalate_cons_cons]

/-- The pieces of a text, joined by what stood between them, are the text. -/
theorem joinWith_splitOn (sep : Char) (cs : List Char) : joinWith [sep] (splitOn sep cs) = cs := by
  induction cs with
  | nil => rfl
  | cons c cs ih =>
      obtain ⟨p, ps, hpieces⟩ := List.exists_cons_of_ne_nil (splitOn_ne_nil sep cs)
      rw [hpieces] at ih
      rw [splitOn, hpieces]
      dsimp only
      split
      · case isTrue heq =>
          rw [joinWith_cons _ _ (List.cons_ne_nil p ps), ih, heq]
          rfl
      · case isFalse hne =>
          cases ps with
          | nil =>
              rw [← ih]
              rfl
          | cons q ps =>
              rw [← ih]
              rfl

/-- Looking for a text finds it where it stands as a block. -/
theorem occursIn_iff {pat cs : List Char} : occursIn pat cs = true ↔ pat <:+: cs := by
  induction cs with
  | nil => rw [occursIn, List.isEmpty_iff, List.infix_nil]
  | cons c cs ih => rw [occursIn, Bool.or_eq_true, List.isPrefixOf_iff_prefix, ih, List.infix_cons_iff]

/-! ## Runs -/

section Runs

variable {p : Char → Bool} {c d : Char} {cs xs ys : List Char}

theorem fieldsBy_cons_sep (h : p c = true) (cs : List Char) :
    fieldsBy p (c :: cs) = fieldsBy p cs :=
  if_pos h

/-- A run of one character. -/
theorem fieldsBy_cons_end (hc : p c = false) (h : ∀ d ∈ cs.head?, p d = true) :
    fieldsBy p (c :: cs) = [c] :: fieldsBy p cs := by
  have hrun : ¬p c = true := ne_true_of_eq_false hc
  cases cs with
  | nil => exact if_neg hrun
  | cons d cs => exact (if_neg hrun).trans (if_pos (h d rfl))

/-- The first character of a run either stands before the rest of it or is a run by itself. -/
theorem fieldsBy_cons_run (hc : p c = false) (d : Char) (cs : List Char) :
    fieldsBy p (c :: d :: cs) =
      if p d then [c] :: fieldsBy p (d :: cs)
      else match fieldsBy p (d :: cs) with
        | [] => [[c]]
        | f :: fs => (c :: f) :: fs :=
  if_neg (ne_true_of_eq_false hc)

theorem exists_fieldsBy_cons (hc : p c = false) (cs : List Char) :
    ∃ f fs, fieldsBy p (c :: cs) = f :: fs := by
  cases cs with
  | nil => exact ⟨_, _, fieldsBy_cons_end hc (by simp)⟩
  | cons d cs =>
      rw [fieldsBy_cons_run hc]
      split
      · exact ⟨_, _, rfl⟩
      · split
        · exact ⟨_, _, rfl⟩
        · exact ⟨_, _, rfl⟩

/-- A run that goes on. -/
theorem exists_fieldsBy_cons_cons (hd : p d = false) (cs : List Char) :
    ∃ f fs, fieldsBy p (d :: cs) = f :: fs ∧
      ∀ c, p c = false → fieldsBy p (c :: d :: cs) = (c :: f) :: fs := by
  obtain ⟨f, fs, hf⟩ := exists_fieldsBy_cons hd cs
  refine ⟨f, fs, hf, fun c hc => ?_⟩
  rw [fieldsBy_cons_run hc, if_neg (ne_true_of_eq_false hd), hf]

/-- No run goes on from one part to the next where a separator stands at the boundary. -/
theorem fieldsBy_append
    (h : (∀ c ∈ xs.getLast?, p c = true) ∨ ∀ c ∈ ys.head?, p c = true) :
    fieldsBy p (xs ++ ys) = fieldsBy p xs ++ fieldsBy p ys := by
  induction xs with
  | nil => rfl
  | cons x xs ih =>
      have hrest : (∀ c ∈ xs.getLast?, p c = true) ∨ ∀ c ∈ ys.head?, p c = true := by
        refine h.imp_left fun hlast c hc => hlast c ?_
        rw [List.getLast?_cons, Option.mem_def.mp hc]
        rfl
      cases hx : p x with
      | true => rw [List.cons_append, fieldsBy_cons_sep hx, fieldsBy_cons_sep hx, ih hrest]
      | false =>
          cases xs with
          | nil =>
              have hhead : ∀ c ∈ ys.head?, p c = true :=
                h.resolve_left fun hlast => absurd (hlast x rfl) (ne_true_of_eq_false hx)
              rw [List.singleton_append, fieldsBy_cons_end hx hhead, fieldsBy_cons_end hx (by simp)]
              rfl
          | cons d xs =>
              cases hd : p d with
              | true =>
                  have hhead : ∀ zs, ∀ c ∈ (d :: zs).head?, p c = true := by
                    intro zs c hc
                    rw [← Option.some.inj hc]
                    exact hd
                  rw [List.cons_append, List.cons_append, fieldsBy_cons_end hx (hhead _),
                    fieldsBy_cons_end hx (hhead _), ← List.cons_append, ih hrest, List.cons_append]
              | false =>
                  obtain ⟨f, fs, hf, hgoes⟩ := exists_fieldsBy_cons_cons hd xs
                  obtain ⟨g, gs, hg, hgoes'⟩ := exists_fieldsBy_cons_cons hd (xs ++ ys)
                  have heq : g :: gs = f :: (fs ++ fieldsBy p ys) := by
                    rw [← hg, ← List.cons_append, ih hrest, hf, List.cons_append]
                  obtain ⟨rfl, rfl⟩ := List.cons.inj heq
                  rw [List.cons_append, List.cons_append, hgoes x hx, hgoes' x hx, List.cons_append]

/-- Texts that differ in separators only fall into the same runs. -/
theorem fieldsBy_congr (h : List.Forall₂ (fun c d => c = d ∨ p c = true ∧ p d = true) xs ys) :
    fieldsBy p xs = fieldsBy p ys := by
  induction h with
  | nil => rfl
  | @cons c d xs ys hcd htail ih =>
      rcases hcd with rfl | ⟨hc, hd⟩
      · cases hc : p c with
        | true => rw [fieldsBy_cons_sep hc, fieldsBy_cons_sep hc, ih]
        | false =>
            cases htail with
            | nil => rfl
            | @cons c' d' xs ys hcd' =>
                rcases hcd' with rfl | ⟨hc', hd'⟩
                · cases hc' : p c' with
                  | true =>
                      rw [fieldsBy_cons_end hc (by simpa using hc'),
                        fieldsBy_cons_end hc (by simpa using hc'), ih]
                  | false =>
                      obtain ⟨f, fs, hf, hgoes⟩ := exists_fieldsBy_cons_cons hc' xs
                      obtain ⟨g, gs, hg, hgoes'⟩ := exists_fieldsBy_cons_cons hc' ys
                      rw [hf, hg] at ih
                      obtain ⟨rfl, rfl⟩ := List.cons.inj ih
                      rw [hgoes c hc, hgoes' c hc]
                · rw [fieldsBy_cons_end hc (by simpa using hc'),
                    fieldsBy_cons_end hc (by simpa using hd'), ih]
      · rw [fieldsBy_cons_sep hc, fieldsBy_cons_sep hd, ih]

end Runs

end Qualify.Text

namespace List

variable {α : Type} {ws xs ys ms : List α}

/-- A block that shares no item with what stands before a list stands in the list. -/
theorem IsInfix.of_append_right (h : ws <:+: xs ++ ms) (hxs : ∀ w ∈ ws, w ∉ xs) : ws <:+: ms := by
  induction xs with
  | nil => exact h
  | cons x xs ih =>
      rw [cons_append, infix_cons_iff] at h
      rcases h with h | h
      · cases ws with
        | nil => exact nil_infix
        | cons w ws =>
            obtain ⟨rfl, -⟩ := cons_prefix_cons.mp h
            exact absurd mem_cons_self (hxs w mem_cons_self)
      · exact ih h fun w hw hmem => hxs w hw (mem_cons_of_mem x hmem)

/-- A block that shares no item with what stands behind a list stands in the list. -/
theorem IsInfix.of_append_left (h : ws <:+: ms ++ ys) (hys : ∀ w ∈ ws, w ∉ ys) : ws <:+: ms := by
  rw [← reverse_infix, reverse_append] at h
  rw [← reverse_infix]
  refine h.of_append_right fun w hw hmem => ?_
  exact hys w (mem_reverse.mp hw) (mem_reverse.mp hmem)

end List
