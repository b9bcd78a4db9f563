import Qualify.BaseScore
import Qualify.Proofs.Text.Pieces

/-!
# Lines of a text

Parts that are joined with a separator fall apart again into these parts, as many as there were,
exactly when the separator stands in none of them (`splitOn_intercalate_iff`).  With line breaks for
separators the parts are lines, and it is a matter of what a line is put together from whether it
stays one: of fixed words and numbers always, of texts from elsewhere if those are on one line.
-/

namespace Qualify

namespace Text

variable {sep : Char} {cs : List Char} {lines : List (List Char)}

theorem length_splitOn (sep : Char) (cs : List Char) :
    (splitOn sep cs).length = cs.count sep + 1 := by
  induction cs with
  | nil => rfl
  | cons c cs ih =>
      obtain ⟨p, ps, hpieces⟩ := List.exists_cons_of_ne_nil (splitOn_ne_nil sep cs)
      rw [hpieces, List.length_cons] at ih
      rw [splitOn, hpieces, List.count_cons]
      dsimp only
      split
      · case isTrue heq =>
          subst heq
          simp [ih]
      · case isFalse hne => simp [ih, hne]

/-- Parts with a separator between them fall into the pieces of all parts. -/
theorem splitOn_intercalate (sep : Char) (hne : lines ≠ []) :
    splitOn sep ([sep].intercalate lines) = lines.flatMap (splitOn sep) := by
  induction lines with
  | nil => exact absurd rfl hne
  | cons l rest ih =>
      cases rest with
      | nil => simp
      | cons l' rest =>
          rw [List.intercalate_cons_cons, List.append_assoc, List.singleton_append,
            splitOn_append, ih (List.cons_ne_nil l' rest)]
          rfl

/-- Joined parts are as many as they fall into exactly when none of them holds the separator, and
then they are what the text falls into. -/
theorem splitOn_intercalate_iff (sep : Char) (hne : lines ≠ []) :
    ((splitOn sep ([sep].intercalate lines)).length = lines.length ↔ ∀ l ∈ lines, sep ∉ l) ∧
      ((∀ l ∈ lines, sep ∉ l) → splitOn sep ([sep].intercalate lines) = lines) := by
  rw [splitOn_intercalate sep hne]
  clear hne
  have hlength : ∀ lines : List (List Char), lines.length ≤ (lines.flatMap (splitOn sep)).length ∧
      ((lines.flatMap (splitOn sep)).length = lines.length ↔ ∀ l ∈ lines, sep ∉ l) := by
    intro lines
    induction lines with
    | nil => simp
    | cons l rest ih =>
        obtain ⟨hle, hiff⟩ := ih
        rw [List.flatMap_cons, List.length_append, length_splitOn, List.length_cons,
          List.forall_mem_cons, ← hiff, ← List.count_eq_zero]
        omega
  refine ⟨(hlength lines).2, fun h => ?_⟩
  induction lines with
  | nil => rfl
  | cons l rest ih =>
      rw [List.forall_mem_cons] at h
      rw [List.flatMap_cons, splitOn_of_notMem h.1, ih h.2, List.singleton_append]

/-! ## Texts on one line -/

/-- The text holds no line break. -/
def IsOneLine (s : String) : Prop := '\n' ∉ s.toList

instance (s : String) : Decidable (IsOneLine s) := inferInstanceAs (Decidable ('\n' ∉ s.toList))

theorem isOneLine_append {s t : String} : IsOneLine (s ++ t) ↔ IsOneLine s ∧ IsOneLine t := by
  rw [IsOneLine, String.toList_append, List.mem_append, not_or]
  rfl

theorem isOneLine_intercalate {glue : String} (hglue : IsOneLine glue) {parts : List String} :
    IsOneLine (glue.intercalate parts) ↔ ∀ s ∈ parts, IsOneLine s := by
  rw [IsOneLine, String.toList_intercalate]
  induction parts with
  | nil => simp
  | cons s rest ih =>
      cases rest with
      | nil => simp [IsOneLine]
      | cons t rest =>
          rw [List.forall_mem_cons, ← ih, List.map_cons, List.map_cons, List.intercalate_cons_cons,
            List.mem_append, List.mem_append, not_or, not_or]
          exact ⟨fun ⟨⟨hs, _⟩, hrest⟩ => ⟨hs, hrest⟩, fun ⟨hs, hrest⟩ => ⟨⟨hs, hglue⟩, hrest⟩⟩

theorem isOneLine_repr (n : Nat) : IsOneLine n.repr := by
  intro hmem
  rw [Nat.toList_repr] at hmem
  exact absurd (Nat.isDigit_of_mem_toDigits (by decide) (by decide) hmem) (by decide)

theorem isOneLine_toString (n : Int) : IsOneLine (toString n) := by
  cases n with
  | ofNat m => exact isOneLine_repr m
  | negSucc m =>
      show IsOneLine ("-" ++ (m + 1).repr)
      exact isOneLine_append.mpr ⟨by decide, isOneLine_repr (m + 1)⟩

theorem isOneLine_signedText (n : Int) : IsOneLine (signedText n) := by
  unfold signedText
  split
  · exact isOneLine_toString n
  · exact isOneLine_append.mpr ⟨by decide, isOneLine_toString n⟩

end Text

end Qualify
