import Qualify.Text.Ranges

/-!
# Blanks

What counts as white space, and the two cuts that depend on it: removing it from both ends of a
text, and taking a text apart into its words.
-/

namespace Qualify.Text

/-- White space: the Unicode spaces and line breaks with the four information separators. -/
def blankRanges : Ranges :=
  [(0x9, 0xD), (0x1C, 0x20), (0x85, 0x85), (0xA0, 0xA0), (0x1680, 0x1680), (0x2000, 0x200A),
   (0x2028, 0x2029), (0x202F, 0x202F), (0x205F, 0x205F), (0x3000, 0x3000)]

def isBlank (c : Char) : Bool := blankRanges.covers c.toNat

/-- White space in the narrower sense of the Unicode property, without the information separators. -/
def isSpaceProperty (c : Char) : Bool := isBlank c && !(0x1C ≤ c.toNat && c.toNat ≤ 0x1F)

/-- The characters without those at either end that satisfy `p`. -/
def trimBy (p : Char → Bool) (cs : List Char) : List Char :=
  ((cs.dropWhile p).reverse.dropWhile p).reverse

/-- The characters without the blanks at either end. -/
def trim (cs : List Char) : List Char := trimBy isBlank cs

/-- The maximal runs of characters that do not satisfy `p`. -/
def fieldsBy (p : Char → Bool) : List Char → List (List Char)
  | [] => []
  | c :: cs =>
    if p c then fieldsBy p cs
    else match cs, fieldsBy p cs with
      | [], _ => [[c]]
      | d :: _, fs =>
        if p d then [c] :: fs
        else match fs with
          | [] => [[c]]
          | f :: fs => (c :: f) :: fs

/-- The words of a text: its maximal runs without blanks. -/
def words (cs : List Char) : List (List Char) := fieldsBy isBlank cs

end Qualify.Text

/-- The text without the blanks at either end. -/
def String.trimBlanks (s : String) : String := String.ofList (Qualify.Text.trim s.toList)
