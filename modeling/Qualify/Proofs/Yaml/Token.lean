import Qualify.Proofs.Yaml.Fault
import Qualify.Yaml.Token.Lexer

/-!
# What can be wrong with tokens

Besides complaints about the format, telling tokens apart fails in two ways only: an escape between
double quotes gives a number past the last character, or a version directive holds a number with
too many digits (`Fault.OfTokens`).  Every reader of scalars, tags and directives keeps to that, and
so does the lexer, whatever its state is (`tokens_fault`).
-/

namespace Qualify.Yaml

/-- What can be wrong with the tokens of a text. -/
inductive Fault.OfTokens : Fault → Prop where
  | malformed : OfTokens .malformed
  | noCharacter {code : Nat} (h : 0x10FFFF < code) : OfTokens (.noCharacter code)
  | longNumeral {digits : Nat} (h : digitLimit < digits) :
      OfTokens (.failed (.longNumeral digits))

attribute [grind .] Fault.OfTokens.malformed

open Qualify.Yaml.Fault (OfTokens)

/-! ## Scalars -/

@[grind .]
theorem restOfLine_fails (c : Cursor) : Fails OfTokens (restOfLine c) := by
  grind [restOfLine]

@[grind .]
theorem emptyLines_fails (fuel : Nat) (c : Cursor) : Fails OfTokens (emptyLines fuel c) := by
  induction fuel generalizing c with
  | zero => grind [emptyLines]
  | succ fuel ih => grind [emptyLines]

@[grind .]
theorem quotedGap_fails (c : Cursor) : Fails OfTokens (quotedGap c) := by
  grind [quotedGap]

@[grind .]
theorem character_fails (code : Nat) : Fails OfTokens (character code) := by
  grind [character, OfTokens.noCharacter]

@[grind .]
theorem escape_fails (c : Cursor) : Fails OfTokens (escape c) := by
  grind [escape]

@[grind .]
theorem quotedWord_fails (quote : Char) (fuel : Nat) (c : Cursor) :
    Fails OfTokens (quotedWord quote fuel c) := by
  induction fuel generalizing c with
  | zero => grind [quotedWord]
  | succ fuel ih => grind [quotedWord]

@[grind .]
theorem quotedRest_fails (quote : Char) (fuel : Nat) (c : Cursor) :
    Fails OfTokens (quotedRest quote fuel c) := by
  induction fuel generalizing c with
  | zero => grind [quotedRest]
  | succ fuel ih => grind [quotedRest]

@[grind .]
theorem quotedScalar_fails (c : Cursor) : Fails OfTokens (quotedScalar c) :=
  quotedRest_fails c.peek c.bound c.step

@[grind .]
theorem blockHeader_fails (c : Cursor) : Fails OfTokens (blockHeader c) := by
  grind [blockHeader]

@[grind .]
theorem blockScalar_fails (least : Nat) (c : Cursor) : Fails OfTokens (blockScalar least c) := by
  grind [blockScalar]

/-! ## Names, tags and directives -/

namespace Token

@[grind .]
theorem name_fails (c : Cursor) : Fails OfTokens (name c) := by
  grind [name]

@[grind .]
theorem uriEscapes_fails (fuel : Nat) (c : Cursor) : Fails OfTokens (uriEscapes fuel c) := by
  induction fuel generalizing c with
  | zero => grind [uriEscapes]
  | succ fuel ih => grind [uriEscapes]

@[grind .]
theorem uriChars_fails (fuel : Nat) (c : Cursor) : Fails OfTokens (uriChars fuel c) := by
  induction fuel generalizing c with
  | zero => grind [uriChars]
  | succ fuel ih => grind [uriChars]

@[grind .]
theorem uri_fails (c : Cursor) : Fails OfTokens (uri c) := by
  grind [uri]

@[grind .]
theorem handle_fails (c : Cursor) : Fails OfTokens (handle c) := by
  grind [handle]

@[grind .]
theorem readTag_fails (c : Cursor) : Fails OfTokens (readTag c) := by
  grind [readTag, uri_fails, handle_fails]

@[grind .]
theorem number_fails (c : Cursor) : Fails OfTokens (number c) := by
  grind [number, OfTokens.longNumeral]

@[grind .]
theorem versionDirectiveRest_fails (c : Cursor) : Fails OfTokens (versionDirectiveRest c) := by
  grind [versionDirectiveRest]

@[grind .]
theorem tagDirectiveRest_fails (c : Cursor) : Fails OfTokens (tagDirectiveRest c) := by
  grind [tagDirectiveRest]

@[grind .]
theorem directive_fails (c : Cursor) : Fails OfTokens (directive c) := by
  grind [directive]

end Token

/-! ## The lexer -/

namespace Lexer

/-- Going on with tokens fails in no other way, whatever the lexer's state is. -/
abbrev FailsAsTokens {α : Type} (m : Scan α) : Prop := Keeps (fun _ => True) OfTokens m

@[grind .]
theorem malformed_fails {α : Type} : FailsAsTokens (malformed : Scan α) := Keeps.throw .malformed

@[grind .]
theorem emit_fails (t : Token) : FailsAsTokens (emit t) := Keeps.change_any _

@[grind .]
theorem emitShort_fails (length : Nat) (t : Token) : FailsAsTokens (emitShort length t) :=
  Keeps.change_any _

@[grind .]
theorem allowKey_fails (b : Bool) : FailsAsTokens (allowKey b) := Keeps.change_any _

@[grind .]
theorem dropKey_fails : FailsAsTokens dropKey := by
  unfold dropKey
  refine .bind .get fun s => ?_
  split
  case h_1 => exact .pure _
  case h_2 k _ => exact .ite (.bind malformed_fails fun _ => .set_any _) (.set_any _)

@[grind .]
theorem noteKey_fails : FailsAsTokens noteKey := by
  unfold noteKey
  refine .bind .get fun s => .ite ?_ (.pure _)
  exact .bind dropKey_fails fun _ => .bind .get fun s => .set_any _

@[grind .]
theorem closeTo_fails (column : Int) : FailsAsTokens (closeTo column) := by
  unfold closeTo
  refine .bind .get fun s => .ite ?_ (.pure _)
  exact .set_any _

@[grind .]
theorem openAt_fails (column : Nat) : FailsAsTokens (openAt column) := by
  unfold openAt
  refine .bind .get fun s => .ite ?_ (.pure _)
  exact .bind (.set_any _) fun _ => .pure _

@[grind ←]
theorem documentToken_fails {read : Cursor → Except Fault (Token × Cursor)}
    (h : ∀ c, Fails OfTokens (read c)) : FailsAsTokens (documentToken read) := by
  unfold documentToken
  refine .bind (closeTo_fails _) fun _ => .bind dropKey_fails fun _ => ?_
  refine .bind (allowKey_fails _) fun _ => .bind .get fun s => ?_
  exact .bind (.lift (h _)) fun _ => .set_any _

@[grind .]
theorem mark_fails (t : Token) : FailsAsTokens (mark t) :=
  documentToken_fails fun c => Fails.ok_iff (t, c.forward 3) |>.mpr trivial

@[grind .]
theorem flowStart_fails (t : Token) : FailsAsTokens (flowStart t) := by
  unfold flowStart
  refine .bind noteKey_fails fun _ => .bind (.change_any _) fun _ => ?_
  exact .bind (allowKey_fails _) fun _ => emitShort_fails 1 t

@[grind .]
theorem flowEnd_fails (t : Token) : FailsAsTokens (flowEnd t) := by
  unfold flowEnd
  refine .bind dropKey_fails fun _ => .bind (.change_any _) fun _ => ?_
  exact .bind (allowKey_fails _) fun _ => emitShort_fails 1 t

@[grind .]
theorem flowEntry_fails : FailsAsTokens flowEntry := by
  unfold flowEntry
  exact .bind (allowKey_fails _) fun _ => .bind dropKey_fails fun _ => emitShort_fails 1 _

@[grind .]
theorem openBlock_fails (t : Token) : FailsAsTokens (openBlock t) := by
  have hopen (column : Nat) : FailsAsTokens (do if ← openAt column then emit t) :=
    .bind (openAt_fails column) fun _ => .ite (emit_fails t) (.pure _)
  unfold openBlock
  refine .bind .get fun s => .ite ?_ (.pure _)
  exact .ite (.bind malformed_fails fun _ => hopen _) (hopen _)

@[grind .]
theorem blockEntry_fails : FailsAsTokens blockEntry := by
  unfold blockEntry
  refine .bind (openBlock_fails _) fun _ => .bind (allowKey_fails _) fun _ => ?_
  exact .bind dropKey_fails fun _ => emitShort_fails 1 _

@[grind .]
theorem key_fails : FailsAsTokens key := by
  unfold key
  refine .bind (openBlock_fails _) fun _ => .bind .get fun s => ?_
  exact .bind (allowKey_fails _) fun _ => .bind dropKey_fails fun _ => emitShort_fails 1 _

@[grind .]
theorem value_fails : FailsAsTokens value := by
  unfold value
  refine .bind .get fun s => ?_
  split
  case h_1 k _ =>
    have hfound (opens : Bool) :
        FailsAsTokens (do
          modify fun s => { s with found := (k.token, opens) :: s.found }
          allowKey false
          emitShort 1 .value) :=
      .bind (.change_any _) fun _ => .bind (allowKey_fails _) fun _ => emitShort_fails 1 _
    refine .bind (.set_any _) fun _ => .ite ?_ ?_
    · exact .bind (openAt_fails _) hfound
    · exact .bind (.pure _) hfound
  case h_2 =>
    refine .bind (openBlock_fails _) fun _ => .bind (allowKey_fails _) fun _ => ?_
    exact .bind dropKey_fails fun _ => emitShort_fails 1 _

@[grind ←]
theorem keyToken_fails {read : Cursor → Except Fault (Token × Cursor)}
    (h : ∀ c, Fails OfTokens (read c)) : FailsAsTokens (keyToken read) := by
  unfold keyToken
  refine .bind noteKey_fails fun _ => .bind (allowKey_fails _) fun _ => .bind .get fun s => ?_
  exact .bind (.lift (h _)) fun _ => .set_any _

@[grind .]
theorem quotedToken_fails : FailsAsTokens quotedToken :=
  keyToken_fails fun c => (Fails.map_iff _ _).mpr (quotedScalar_fails c)

@[grind .]
theorem blockToken_fails : FailsAsTokens blockToken := by
  unfold blockToken
  refine .bind (allowKey_fails _) fun _ => .bind dropKey_fails fun _ => .bind .get fun s => ?_
  exact .bind (.lift (blockScalar_fails _ _)) fun _ => .set_any _

@[grind .]
theorem plainToken_fails : FailsAsTokens plainToken := by
  unfold plainToken
  exact .bind noteKey_fails fun _ => .bind .get fun s => .set_any _

end Lexer

end Qualify.Yaml
