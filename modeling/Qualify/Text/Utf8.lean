import Qualify.Text.Quoted

/-!
# Texts in bytes

Files hold texts in UTF-8. They are read in pieces of a fixed size, and a byte that belongs to no
character is told by its place in its piece. A carriage return, alone or before a line feed, is read
as a line feed.
-/

namespace Qualify.Utf8

/-- Why bytes are no character. -/
inductive Flaw where
  | start
  | continuation
  | truncated
deriving DecidableEq

def Flaw.text : Flaw → String
  | .start => "invalid start byte"
  | .continuation => "invalid continuation byte"
  | .truncated => "unexpected end of data"

/-- Bytes that are no character: how many there are, their first one and its place. -/
structure Fault where
  flaw : Flaw
  place : Nat
  length : Nat
  first : UInt8
deriving DecidableEq

def Fault.message (f : Fault) : String :=
  let bytes :=
    if f.length = 1 then
      "byte 0x" ++ String.ofList (Text.hexDigits 2 f.first.toNat) ++ s!" in position {f.place}"
    else s!"bytes in position {f.place}-{f.place + f.length - 1}"
  "'utf-8' codec can't decode " ++ bytes ++ ": " ++ f.flaw.text

/-- What the first bytes of a row are. -/
inductive Step where
  /-- A character of so many bytes. -/
  | char (c : Char) (length : Nat)
  /-- The start of a character whose other bytes are missing. -/
  | missing
  | flawed (f : Flaw) (length : Nat)

def isContinuation (b : UInt8) : Bool := 0x80 ≤ b && b ≤ 0xBF

/-- Six bits of a byte that continues a character. -/
def bits (b : UInt8) : Nat := b.toNat % 64

/-- May the second byte follow the first one of a character of three or four bytes? Overlong forms,
halves of pairs and numbers past the last character may not be written. -/
def mayFollow (a b : UInt8) : Bool :=
  isContinuation b &&
    !(a == 0xE0 && b < 0xA0 || a == 0xED && 0xA0 ≤ b || a == 0xF0 && b < 0x90 || a == 0xF4 && 0x90 ≤ b)

/-- The step at a byte, given the bytes behind it. -/
def step (a : UInt8) (rest : List UInt8) : Step :=
  if a < 0x80 then .char (Char.ofNat a.toNat) 1
  else if a < 0xC2 then .flawed .start 1
  else if a < 0xE0 then
    match rest with
    | [] => .missing
    | b :: _ =>
      if isContinuation b then .char (Char.ofNat (a.toNat % 32 * 64 + bits b)) 2
      else .flawed .continuation 1
  else if a < 0xF5 then
    match rest with
    | [] => .missing
    | b :: rest =>
      if !mayFollow a b then .flawed .continuation 1
      else match rest with
        | [] => .missing
        | c :: rest =>
          if !isContinuation c then .flawed .continuation 2
          else if a < 0xF0 then .char (Char.ofNat ((a.toNat % 16 * 64 + bits b) * 64 + bits c)) 3
          else match rest with
            | [] => .missing
            | d :: _ =>
              if isContinuation d then
                .char (Char.ofNat (((a.toNat % 8 * 64 + bits b) * 64 + bits c) * 64 + bits d)) 4
              else .flawed .continuation 3
  else .flawed .start 1

/-- The characters of a piece from a place on, and the bytes of one that goes on behind it. -/
def pieceFrom : (fuel place : Nat) → List UInt8 → Except Fault (List Char × List UInt8)
  | 0, _, bs => .ok ([], bs)
  | _ + 1, _, [] => .ok ([], [])
  | fuel + 1, place, a :: rest =>
    match step a rest with
    | .char c n => do
      let (cs, left) ← pieceFrom fuel (place + n) ((a :: rest).drop n)
      return (c :: cs, left)
    | .missing => .ok ([], a :: rest)
    | .flawed f n =>
      -- half of a pair is told apart only with all its bytes
      if a = 0xED ∧ rest.length = 1 ∧ rest.all isContinuation then .ok ([], a :: rest)
      else .error ⟨f, place, n, a⟩

/-- What is left at the end is no character. -/
def ending : List UInt8 → Except Fault Unit
  | [] => .ok ()
  | a :: rest =>
    match step a rest with
    | .flawed f n => .error ⟨f, 0, n, a⟩
    | _ => .error ⟨.truncated, 0, rest.length + 1, a⟩

/-- How many bytes are read at a time. -/
def pieceSize : Nat := 8192

/-- The characters of a row of bytes behind what is left of the piece before. -/
def charsFrom : (fuel : Nat) → List UInt8 → List UInt8 → Except Fault (List Char)
  | 0, _, _ => .ok []
  | _ + 1, left, [] => do
    ending left
    return []
  | fuel + 1, left, bs => do
    let piece := left ++ bs.take pieceSize
    let (cs, left) ← pieceFrom (piece.length + 1) 0 piece
    return cs ++ (← charsFrom fuel left (bs.drop pieceSize))

/-- Every end of a line as a line feed. -/
def withLineFeeds : List Char → List Char
  | [] => []
  | '\r' :: '\n' :: cs => '\n' :: withLineFeeds cs
  | '\r' :: cs => '\n' :: withLineFeeds cs
  | c :: cs => c :: withLineFeeds cs

/-- The text in a row of bytes. -/
def text (bs : List UInt8) : Except Fault String := do
  return String.ofList (withLineFeeds (← charsFrom (bs.length + 1) [] bs))

/-- The bytes of a text. -/
def bytes (s : String) : List UInt8 := s.toUTF8.toList

end Qualify.Utf8
