/-!
# Pieces of a text

Cutting a text at a separator, joining pieces, and looking for one text inside another. All of it
is on lists of characters.
-/

namespace Qualify.Text

/-- The pieces between the occurrences of a separator character; there is always at least one. -/
def splitOn (sep : Char) : List Char → List (List Char)
  | [] => [[]]
  | c :: cs =>
    match splitOn sep cs with
    | [] => [[c]]
    | p :: ps => if c = sep then [] :: p :: ps else (c :: p) :: ps

theorem splitOn_ne_nil (sep : Char) (cs : List Char) : splitOn sep cs ≠ [] := by
  cases cs with
  | nil => simp [splitOn]
  | cons c cs => simp only [splitOn]; split <;> (try split) <;> simp

/-- The pieces one after the other with a separator between neighbours. -/
def joinWith (sep : List Char) : List (List Char) → List Char
  | [] => []
  | [p] => p
  | p :: ps => p ++ sep ++ joinWith sep ps

@[simp] theorem joinWith_nil (sep : List Char) : joinWith sep [] = [] := rfl
@[simp] theorem joinWith_singleton (sep p : List Char) : joinWith sep [p] = p := rfl

/-- What stands before and after the last occurrence of a character, if it occurs. -/
def splitAtLast? (sep : Char) (cs : List Char) : Option (List Char × List Char) :=
  let tail := cs.reverse.takeWhile (· != sep)
  if tail.length = cs.length then none
  else some (cs.take (cs.length - tail.length - 1), tail.reverse)

/-- Does the first list occur as a block in the second? -/
def occursIn (pat : List Char) : List Char → Bool
  | [] => pat.isEmpty
  | c :: cs => pat.isPrefixOf (c :: cs) || occursIn pat cs

/-- Every occurrence of one character replaced by a text. -/
def replaceChar (old : Char) (new : List Char) (cs : List Char) : List Char :=
  cs.flatMap fun c => if c = old then new else [c]

end Qualify.Text

/-- The texts one after the other with a separator between neighbours. -/
def String.joinWith (sep : String) (parts : List String) : String :=
  String.ofList (Qualify.Text.joinWith sep.toList (parts.map String.toList))
