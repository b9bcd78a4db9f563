import Qualify.Condition
import Qualify.Proofs.Text.Pieces
import Qualify.Proofs.Text.Sigma

/-!
# Comparisons of texts without regard to case

Texts are compared in lower case, each brought into it by itself.  So a text begins and ends with
its own beginning and end and contains its own pieces, unless a capital sigma at the seam takes its
final form on one side of the comparison only (`Comparison.ownPieces_iff`).  Where that happens the
comparison says no of the very same characters (`Comparison.ownBeginning_fails`).
-/

namespace Qualify.Comparison

open Text (metCased OpensWithSigma ClosesWithSigma)

variable {cells : Cells} {s t : String}

theorem holds_startsWith_iff :
    startsWith.holds cells (.text s) (.text t) = .ok true ↔
      Text.lower t.toList <+: Text.lower s.toList := by
  rw [holds, onTexts, Except.ok.injEq, List.isPrefixOf_iff_prefix]
  rfl

theorem holds_endsWith_iff :
    endsWith.holds cells (.text s) (.text t) = .ok true ↔
      Text.lower t.toList <:+ Text.lower s.toList := by
  rw [holds, onTexts, Except.ok.injEq, List.isSuffixOf_iff_suffix]
  rfl

theorem holds_contains (cells : Cells) (s t : String) :
    contains.holds cells (.text s) (.text t) =
      .ok (Text.occursIn (Text.lower t.toList) (Text.lower s.toList)) := rfl

theorem holds_notContains (cells : Cells) (s t : String) :
    notContains.holds cells (.text s) (.text t) =
      .ok (!Text.occursIn (Text.lower t.toList) (Text.lower s.toList)) := rfl

/-- A text starts with its own beginning unless that closes with a sigma whose word goes on, and
ends with its own end unless that opens with a sigma that ends a word of the text.  It contains a
piece of it that does neither where it stands, and a piece is contained in every text around it
exactly if no sigma opens or closes it. -/
theorem ownPieces_iff (cells : Cells) (a b c : String) :
    (startsWith.holds cells (.text (a ++ b)) (.text a) = .ok true ↔
      ¬ (metCased b.toList = true ∧ ClosesWithSigma a.toList)) ∧
    (endsWith.holds cells (.text (a ++ b)) (.text b) = .ok true ↔
      ¬ (metCased a.toList.reverse = true ∧ OpensWithSigma b.toList [])) ∧
    (¬ (metCased a.toList.reverse = true ∧ OpensWithSigma b.toList c.toList) →
      ¬ (metCased c.toList = true ∧ ClosesWithSigma b.toList) →
      contains.holds cells (.text (a ++ b ++ c)) (.text b) = .ok true ∧
        notContains.holds cells (.text (a ++ b ++ c)) (.text b) = .ok false) ∧
    ((∀ a c, contains.holds cells (.text (a ++ b ++ c)) (.text b) = .ok true ∧
        notContains.holds cells (.text (a ++ b ++ c)) (.text b) = .ok false) ↔
      ¬ OpensWithSigma b.toList [] ∧ ¬ ClosesWithSigma b.toList) := by
  have hpiece : ∀ a c : String, (contains.holds cells (.text (a ++ b ++ c)) (.text b) = .ok true ∧
      notContains.holds cells (.text (a ++ b ++ c)) (.text b) = .ok false) ↔
        Text.lower b.toList <:+: Text.lower (a.toList ++ b.toList ++ c.toList) := by
    intro a c
    rw [holds_contains, holds_notContains, Except.ok.injEq, Except.ok.injEq, Bool.not_eq_false',
      and_self, Text.occursIn_iff, String.toList_append, String.toList_append]
  refine ⟨?_, ?_, ?_, ?_⟩
  · rw [holds_startsWith_iff, String.toList_append, Text.lower_prefix_append_iff]
  · rw [holds_endsWith_iff, String.toList_append, Text.lower_suffix_append_iff]
  · intro hopens hcloses
    exact (hpiece a c).mpr (Text.lower_infix_append hopens hcloses)
  · simp only [hpiece, ← Text.lower_infix_everywhere_iff]
    constructor
    · intro h xs ys
      simpa using h (String.ofList xs) (String.ofList ys)
    · intro h a c
      exact h a.toList c.toList

/-- A word does not start with its own first two letters, a sigma the second of them. -/
theorem ownBeginning_fails :
    startsWith.holds [] (.text ("ΑΣ" ++ "Α")) (.text "ΑΣ") = .ok false := by
  decide +kernel

end Qualify.Comparison
