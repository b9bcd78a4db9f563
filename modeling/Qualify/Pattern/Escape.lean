import Qualify.Pattern.Reading
import Qualify.Text.CharacterName

/-!
# Escapes in patterns

A backslash with a letter is a control character, a class, an assertion or the start of a code point;
with digits it is a code point or a reference to a group.
-/

namespace Qualify.Pattern

def isOctalDigit (c : Char) : Bool := '0' ≤ c && c ≤ '7'

def isHexDigit (c : Char) : Bool :=
  c.isDigit || ('a' ≤ c && c ≤ 'f') || ('A' ≤ c && c ≤ 'F')

def digitValue (c : Char) : Nat :=
  if c.isDigit then c.toNat - '0'.toNat
  else if 'a' ≤ c then c.toNat - 'a'.toNat + 10
  else c.toNat - 'A'.toNat + 10

def numberIn (base : Nat) (cs : List Char) : Nat := cs.foldl (fun n c => base * n + digitValue c) 0

/-- Letters that stand for control characters behind a backslash. -/
def controlEscape? : Char → Option Nat
  | 'a' => some 7
  | 'b' => some 8
  | 'f' => some 12
  | 'n' => some 10
  | 'r' => some 13
  | 't' => some 9
  | 'v' => some 11
  | '\\' => some '\\'.toNat
  | _ => none

def classEscape? : Char → Option (Class × Bool)
  | 'd' => some (.digit, false)
  | 'D' => some (.digit, true)
  | 's' => some (.blank, false)
  | 'S' => some (.blank, true)
  | 'w' => some (.word, false)
  | 'W' => some (.word, true)
  | _ => none

/-- A code point in so many hexadecimal digits. -/
def readHex (digits : Nat) : Reading Nat := do
  let cs ← takeWhile isHexDigit digits
  if cs.length < digits then malformed else return numberIn 16 cs

/-- An escape that means one code point, in a set or outside, if the character starts one. -/
def pointEscape (c : Char) : Reading Nat := do
  match c with
  | 'x' => readHex 2
  | 'u' => readHex 4
  | 'U' =>
    let n ← readHex 8
    if 0x10FFFF < n then malformed else return n
  | 'N' =>
    if ← accept '\x7b' then
      match Text.named? (String.ofList (← takeUntil '\x7d')) with
      | some n => return n
      | none => malformed
    else malformed
  | c => if c.isAlpha || c.isDigit then malformed else return c.toNat

/-- An octal escape with its first digit given. -/
def octal (first : Char) (more : Nat) : Reading Nat := do
  let n := numberIn 8 (first :: (← takeWhile isOctalDigit more))
  if 0xFF < n then malformed else return n

/-- An escape in a set. -/
def setEscape (c : Char) : Reading SetItem := do
  match controlEscape? c, classEscape? c with
  | some n, _ => return .point n
  | none, some (k, negated) => return .kind k negated
  | none, none =>
    if isOctalDigit c then return .point (← octal c 2) else return .point (← pointEscape c)

/-- A group that may be referred to: it is closed, and stood before any look-behind at hand. -/
def checkReference (n : Nat) : Reading Unit := do
  let s ← get
  let closed := ((s.groups[n]?).bind id).isSome
  if !closed || s.behind.any (· ≤ n) then malformed

def literal (flags : Flags) (n : Nat) : Item :=
  { pattern := .one (.point flags.mode.folding n false), width := .one }

def anchorItem (a : Anchor) : Item := { pattern := .anchor a, kind := .anchor }

/-- A reference to a group. -/
def reference (flags : Flags) (n : Nat) : Reading Item := do
  checkReference n
  return { pattern := .backref flags.mode.folding n
           width := (((← get).groups[n]?).bind id).getD .zero }

/-- Digits behind a backslash: three octal ones are a code point, else they refer to a group. -/
def numberEscape (flags : Flags) (c : Char) : Reading Item := do
  let second ← takeWhile Char.isDigit 1
  let third ← if isOctalDigit c && second.any isOctalDigit then takeWhile isOctalDigit 1 else pure []
  if third.isEmpty then
    let n := numberIn 10 (c :: second)
    if n < (← get).groups.length then reference flags n else malformed
  else
    let n := numberIn 8 (c :: second ++ third)
    if 0xFF < n then malformed else return literal flags n

/-- An escape outside of a set. -/
def itemEscape (flags : Flags) (c : Char) : Reading Item := do
  match c with
  | 'A' => return anchorItem .textStart
  | 'Z' => return anchorItem .textEnd
  | 'b' => return anchorItem (.wordEdge flags.basic false)
  | 'B' => return anchorItem (.wordEdge flags.basic true)
  | c =>
    match classEscape? c, controlEscape? c with
    | some (k, negated), _ =>
      return { pattern := .one (.set flags.mode [.kind k negated] false), width := .one }
    | none, some n => return literal flags n
    | none, none =>
      if c = '0' then return literal flags (← octal c 2)
      else if c.isDigit then numberEscape flags c
      else return literal flags (← pointEscape c)

end Qualify.Pattern
