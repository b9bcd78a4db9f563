import Qualify.Pattern.Basic

/-!
# Matching

A pattern is matched with what follows it: alternatives are tried in order, and the first one with
which the rest matches too is taken. Every repetition goes at most one empty step beyond its least
number, so matching ends.
-/

namespace Qualify.Pattern

/-- A place in a text with what the groups have matched, the latest first. -/
structure State where
  pos : Nat
  groups : List (Nat × Nat × Nat) := []
deriving Inhabited

namespace State

def group? (s : State) (n : Nat) : Option (Nat × Nat) := s.groups.lookup n

end State

/-- A way to go on from a state. -/
abbrev Next := State → Option State

/-- What matches: from a state with a way to go on to the final state. -/
abbrev Matcher := State → Next → Option State

def isLineBreak (c : Char) : Bool := c == '\n'

def Anchor.holds (text : Array Char) (pos : Nat) : Anchor → Bool
  | textStart => pos == 0
  | textEnd => pos == text.size
  | lineStart => pos == 0 || text[pos - 1]?.any isLineBreak
  | lineEnd => pos == text.size || text[pos]?.any isLineBreak
  | lastLineEnd => pos == text.size || (pos + 1 == text.size && text[pos]?.any isLineBreak)
  | wordEdge basic negated =>
    let isWord (i : Nat) : Bool := text[i]?.any (Class.word.holds basic)
    let before := pos != 0 && isWord (pos - 1)
    text.size != 0 && ((before != isWord pos) != negated)

/-- How many characters from a place on satisfy a test, up to a bound. -/
def runLength (text : Array Char) (t : CharTest) : (bound pos : Nat) → Nat
  | 0, _ => 0
  | bound + 1, pos =>
    match text[pos]? with
    | some c => if t.holds c then runLength text t bound (pos + 1) + 1 else 0
    | none => 0

/-- Going on after the longest of several runs from which that is possible. -/
def fromLongest (least : Nat) (s : State) (next : Next) : Nat → Option State
  | 0 => if least = 0 then next s else none
  | n + 1 =>
    if n + 1 < least then none
    else match next { s with pos := s.pos + (n + 1) } with
      | some r => some r
      | none => fromLongest least s next n

/-- Going on after the shortest of the runs that are at most `left` longer. -/
def fromShortest (s : State) (next : Next) : (left n : Nat) → Option State
  | 0, n => next { s with pos := s.pos + n }
  | left + 1, n =>
    match next { s with pos := s.pos + n } with
    | some r => some r
    | none => fromShortest s next left (n + 1)

/-- A repetition of a test. -/
def repeatOne (text : Array Char) (t : CharTest) (least : Nat) (most : Option Nat) (greed : Greed) :
    Matcher := fun s next =>
  let left := text.size - s.pos
  let n := runLength text t ((most.map (min left)).getD left) s.pos
  if n < least then none
  else match greed with
    | .greedy => fromLongest least s next n
    | .lazy => fromShortest s next (n - least) least
    | .possessive => next { s with pos := s.pos + n }

/-- May a repetition go on? Not past its bound, and not where its last step started. -/
def mayRepeat (most : Option Nat) (count : Nat) (last : Option Nat) (pos : Nat) : Bool :=
  most.all (count < ·) && last != some pos

/-- A repetition that has been taken `count` times. -/
def repeatFrom (body : Matcher) (least : Nat) (most : Option Nat) (greed : Greed) :
    (fuel count : Nat) → (last : Option Nat) → Matcher
  | 0, _, _, _, _ => none
  | fuel + 1, count, last, s, next =>
    let again (last : Option Nat) : Option State :=
      body s fun s => repeatFrom body least most greed fuel (count + 1) last s next
    let more (_ : Unit) : Option State :=
      if mayRepeat most count last s.pos then again (some s.pos) else none
    match greed with
    | .greedy => if count < least then again last
      else match more () with
        | some r => some r
        | none => next s
    | .lazy =>
      if count < least then again last
      else match next s with
        | some r => some r
        | none => more ()
    | .possessive =>
      -- every step is settled before the next one
      if count < least then
        (body s some).bind fun s => repeatFrom body least most greed fuel (count + 1) last s next
      else match if mayRepeat most count last s.pos then body s some else none with
        | some t => repeatFrom body least most greed fuel (count + 1) (some s.pos) t next
        | none => next s

/-- The text between two places. -/
def slice (text : Array Char) (start stop : Nat) : List Char := (text.extract start stop).toList

/-- Matching what a group has matched. -/
def matchAgain (text : Array Char) (f : Folding) (n : Nat) : Matcher := fun s next =>
  match s.group? n with
  | none => none
  | some (start, stop) =>
    let there := slice text start stop
    let here := slice text s.pos (s.pos + there.length)
    if there.map (fun c => f.fold c.toNat) = here.map (fun c => f.fold c.toNat) then
      next { s with pos := s.pos + there.length }
    else none

def run (text : Array Char) : Pattern → Matcher
  | empty, s, next => next s
  | one t, s, next =>
    match text[s.pos]? with
    | some c => if t.holds c then next { s with pos := s.pos + 1 } else none
    | none => none
  | anchor a, s, next => if a.holds text s.pos then next s else none
  | seq p q, s, next => run text p s fun s => run text q s next
  | alt p q, s, next =>
    match run text p s next with
    | some r => some r
    | none => run text q s next
  | rep least most greed (one t), s, next => repeatOne text t least most greed s next
  | rep least most greed p, s, next =>
    repeatFrom (run text p) least most greed (least + text.size + 3) 0 none s next
  | group n p, s, next =>
    run text p s fun t => next { t with groups := (n, s.pos, t.pos) :: t.groups }
  | atomic p, s, next => (run text p s some).bind next
  | ahead negated p, s, next =>
    match run text p s some with
    | some t => if negated then none else next { t with pos := s.pos }
    | none => if negated then next s else none
  | behind negated width p, s, next =>
    match if width ≤ s.pos then run text p { s with pos := s.pos - width } some else none with
    | some t => if negated then none else next { t with pos := s.pos }
    | none => if negated then next s else none
  | backref f n, s, next => matchAgain text f n s next
  | ifGroup n p q, s, next =>
    if (s.group? n).isSome then run text p s next else run text q s next

/-- Does the pattern match from one of so many places on, the first of them given? -/
def occursFrom (p : Pattern) (text : Array Char) : (left pos : Nat) → Bool
  | 0, pos => (run text p { pos } some).isSome
  | left + 1, pos => (run text p { pos } some).isSome || occursFrom p text left (pos + 1)

/-- Does the pattern match somewhere in a text? -/
def occursIn (p : Pattern) (s : String) : Bool :=
  let text := s.toList.toArray
  occursFrom p text text.size 0

end Qualify.Pattern
