/-!
# Paragraphs and columns

Words in lines that are as long as fits, and rows of two texts one above the other.
-/

namespace Qualify.Text

def spaces (n : Nat) : String := String.ofList (List.replicate n ' ')

/-- Lines, the last one first, with one more word: on the last line if it fits there. -/
def putWord (room : Nat) (lines : List String) (w : String) : List String :=
  match lines with
  | l :: ls => if l.length + 1 + w.length ≤ room then (l ++ " " ++ w) :: ls else w :: l :: ls
  | [] => [w]

/-- Words in lines of a width, behind an indentation. -/
def filled (width indent : Nat) (words : List String) : List String :=
  (words.foldl (putWord (width - indent)) []).reverse.map (spaces indent ++ ·)

/-- Rows of two texts, the second ones starting at the same place. -/
def columns (rows : List (String × String)) : List String :=
  let widest := (rows.map fun r => r.1.length).foldl Nat.max 0
  rows.map fun r => spaces 2 ++ r.1 ++ spaces (widest + 2 - r.1.length) ++ r.2

end Qualify.Text
