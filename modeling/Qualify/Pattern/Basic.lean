import Qualify.Pattern.Folding
import Qualify.Text.Alphanumeric
import Qualify.Text.Blank
import Qualify.Text.Digit

/-!
# Patterns

What a pattern is made of: tests of one character, anchors, sequences, alternatives, repetitions,
groups and assertions about what surrounds a place.
-/

namespace Qualify

namespace Pattern

/-- The ways in which a part of a pattern can be read. -/
structure Mode where
  folding : Folding := .full
  /-- Do the classes know the basic alphabet only? -/
  basicClasses : Bool := false
  /-- Do anchors hold at line breaks? -/
  multiline : Bool := false
  /-- Does a dot stand for a line break too? -/
  dotAll : Bool := false
deriving Repr, DecidableEq, Inhabited

/-- Classes of characters. -/
inductive Class where
  | digit
  | blank
  | word
deriving Repr, DecidableEq

namespace Class

def holdsBasic : Class → Char → Bool
  | digit, c => c.isDigit
  | blank, c => c == ' ' || (0x9 ≤ c.toNat && c.toNat ≤ 0xD)
  | word, c => c.isAlphanum || c == '_'

def holdsFull : Class → Char → Bool
  | digit, c => Text.isDecimalDigit c
  | blank, c => Text.isBlank c
  | word, c => Text.isWordChar c

def holds (k : Class) (basic : Bool) (c : Char) : Bool :=
  if basic then k.holdsBasic c else k.holdsFull c

end Class

/-- What a set of characters is given by. -/
inductive SetItem where
  | point (n : Nat)
  | range (low high : Nat)
  | kind (k : Class) (negated : Bool)
deriving Repr, DecidableEq

/-- A test of one character. -/
inductive CharTest where
  /-- Anything, or anything but a line break. -/
  | any (lineBreaks : Bool)
  | point (f : Folding) (n : Nat) (negated : Bool)
  | set (m : Mode) (items : List SetItem) (negated : Bool)
deriving Repr, DecidableEq

/-- Where the plane of the most common characters ends. -/
def planeEnd : Nat := 0x10000

namespace SetItem

/-- Does the item make a set be compared without case? -/
def folds (f : Folding) : SetItem → Bool
  | point n => f != .none && (f.isCased n || planeEnd ≤ f.fold n)
  | range low high => f != .none && (f.meetsCased low high || planeEnd ≤ high)
  | kind .. => false

/-- Does the item hold of a character as it is? -/
def holds (basic : Bool) (c : Char) : SetItem → Bool
  | point n => c.toNat == n
  | range low high => low ≤ c.toNat && c.toNat ≤ high
  | kind k negated => k.holds basic c != negated

/-- Does the item hold of a folded character? Beyond the first plane, points are compared as they
are, and ranges with the upper case too. -/
def holdsFolded (m : Mode) (n : Nat) : SetItem → Bool
  | point p =>
    if planeEnd ≤ m.folding.fold p then n == p
    else (m.folding.variants (m.folding.fold p)).contains n
  | range low high =>
    (m.folding.variants n).any (fun v =>
      (m.folding.sources v).any fun s => low ≤ s && s ≤ high && s < planeEnd) ||
    (planeEnd ≤ high && ((low ≤ n && n ≤ high) ||
      (low ≤ Text.upperPoint n && Text.upperPoint n ≤ high)))
  | kind k negated => k.holds m.basicClasses (Char.ofNat n) != negated

end SetItem

namespace CharTest

def holds (c : Char) : CharTest → Bool
  | any lineBreaks => lineBreaks || c != '\n'
  | point f n negated => f.same c.toNat n != negated
  | set m items negated =>
    (if items.any (SetItem.folds m.folding) then
      items.any (SetItem.holdsFolded m (m.folding.fold c.toNat))
    else items.any (SetItem.holds m.basicClasses c)) != negated

end CharTest

/-- A place that is told by what surrounds it. -/
inductive Anchor where
  | textStart
  | textEnd
  | lineStart
  | lineEnd
  /-- The end of the text or before a line break there. -/
  | lastLineEnd
  | wordEdge (basic negated : Bool)
deriving Repr, DecidableEq

/-- How many times a repetition tries to repeat. -/
inductive Greed where
  | greedy
  | lazy
  /-- As often as possible, and never less once that is settled. -/
  | possessive
deriving Repr, DecidableEq

end Pattern

inductive Pattern where
  | empty
  | one (t : Pattern.CharTest)
  | anchor (a : Pattern.Anchor)
  | seq (p q : Pattern)
  | alt (p q : Pattern)
  | rep (least : Nat) (most : Option Nat) (greed : Pattern.Greed) (p : Pattern)
  | group (n : Nat) (p : Pattern)
  /-- The first way in which the part matches and no other. -/
  | atomic (p : Pattern)
  /-- Does the part match from here on, or not? -/
  | ahead (negated : Bool) (p : Pattern)
  /-- Does the part, which has a fixed width, match just before, or not? -/
  | behind (negated : Bool) (width : Nat) (p : Pattern)
  | backref (f : Pattern.Folding) (n : Nat)
  | ifGroup (n : Nat) (p q : Pattern)
deriving Inhabited

end Qualify
