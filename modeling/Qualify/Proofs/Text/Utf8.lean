import Qualify.Proofs.Except
import Qualify.Text.Utf8

/-!
# Plain bytes

Bytes below 128 are characters of their own.  A row of them is a text, with the same characters in
it, unless some of them are carriage returns (`Utf8.text_of_plain`).  So a text of such characters is
read back from its bytes (`Utf8.text_bytes`).
-/

namespace Qualify.Utf8

/-- The character that a byte is on its own. -/
def plainChar (b : UInt8) : Char := Char.ofNat b.toNat

variable {bs : List UInt8}

theorem pieceFrom_of_plain (h : ∀ b ∈ bs, b < 0x80) {fuel : Nat} (hfuel : bs.length < fuel)
    (place : Nat) : pieceFrom fuel place bs = .ok (bs.map plainChar, []) := by
  induction bs generalizing fuel place with
  | nil =>
      cases fuel with
      | zero => cases hfuel
      | succ fuel => rfl
  | cons b bs ih =>
      obtain ⟨hb, hbs⟩ := List.forall_mem_cons.mp h
      cases fuel with
      | zero => cases hfuel
      | succ fuel =>
          have hstep : step b bs = .char (plainChar b) 1 := if_pos hb
          rw [pieceFrom, hstep]
          dsimp only
          rw [List.drop_one, List.tail_cons, ih hbs (Nat.lt_of_succ_lt_succ hfuel)]
          rfl

theorem charsFrom_of_plain (h : ∀ b ∈ bs, b < 0x80) {fuel : Nat} (hfuel : bs.length < fuel) :
    charsFrom fuel [] bs = .ok (bs.map plainChar) := by
  induction fuel generalizing bs with
  | zero => cases hfuel
  | succ fuel ih =>
      cases bs with
      | nil => rfl
      | cons b rest =>
          have htake : ∀ c ∈ (b :: rest).take pieceSize, c < 0x80 :=
            fun c hc => h c (List.mem_of_mem_take hc)
          have hpiece := pieceFrom_of_plain htake (Nat.lt_succ_self _) 0
          have hrest : charsFrom fuel [] ((b :: rest).drop pieceSize) =
              .ok (((b :: rest).drop pieceSize).map plainChar) := by
            refine ih (fun c hc => h c (List.mem_of_mem_drop hc)) ?_
            rw [List.length_drop, pieceSize]
            simp only [List.length_cons] at hfuel ⊢
            omega
          rw [charsFrom]
          · dsimp only
            rw [List.nil_append, hpiece, Except.ok_bind]
            dsimp only
            rw [hrest, Except.ok_bind, ← List.map_append, List.take_append_drop]
            rfl
          · exact fun h => List.cons_ne_nil _ _ h

theorem withLineFeeds_of_notMem {cs : List Char} (h : '\r' ∉ cs) : withLineFeeds cs = cs := by
  induction cs with
  | nil => rfl
  | cons c cs ih =>
      rw [List.mem_cons, not_or] at h
      rw [withLineFeeds, ih h.2]
      · exact fun _ hc _ => h.1 hc.symm
      · exact fun hc => h.1 hc.symm

/-- A row of plain bytes is a text with the same characters. -/
theorem text_of_plain (h : ∀ b ∈ bs, b < 0x80) (hreturn : '\r' ∉ bs.map plainChar) :
    text bs = .ok (String.ofList (bs.map plainChar)) := by
  rw [text, charsFrom_of_plain h (Nat.lt_succ_self _), Except.ok_bind,
    withLineFeeds_of_notMem hreturn]
  rfl

/-! ## Texts in plain bytes -/

theorem toList_loop (bs : ByteArray) (i : Nat) (r : List UInt8) :
    ByteArray.toList.loop bs i r = r.reverse ++ bs.data.toList.drop i := by
  fun_induction ByteArray.toList.loop bs i r with
  | case1 i r h ih =>
    have hi : i < bs.data.toList.length := by simpa using h
    have hget : bs.get! i = bs.data.toList[i] := by simp [ByteArray.get!, h]
    rw [ih, List.drop_eq_getElem_cons hi, hget]
    simp
  | case2 i r h =>
    have hi : bs.data.toList.length ≤ i := by simpa using h
    rw [List.drop_eq_nil_of_le hi, List.append_nil]

theorem bytes_eq_flatMap (s : String) : bytes s = s.toList.flatMap String.utf8EncodeChar := by
  unfold bytes String.toUTF8 ByteArray.toList
  rw [toList_loop, ← String.utf8Encode_toList, List.utf8Encode, List.toList_data_toByteArray]
  rfl

/-- A text of plain characters is read back from its bytes. -/
theorem text_bytes {s : String} (hplain : ∀ c ∈ s.toList, c.toNat < 0x80)
    (hreturn : '\r' ∉ s.toList) : text (bytes s) = .ok s := by
  have hbytes : bytes s = s.toList.map fun c => UInt8.ofNat c.toNat := by
    rw [bytes_eq_flatMap, ← List.flatMap_pure_eq_map]
    refine List.flatMap_congr fun c hc => ?_
    exact if_pos (Nat.le_of_lt_succ (hplain c hc))
  have hbyte : ∀ c ∈ s.toList, (UInt8.ofNat c.toNat).toNat = c.toNat := fun c hc =>
    UInt8.toNat_ofNat_of_lt' (Nat.lt_trans (hplain c hc) (by decide))
  have hchars : (bytes s).map plainChar = s.toList := by
    rw [hbytes, List.map_map]
    refine (List.map_congr_left fun c hc => ?_).trans (List.map_id _)
    rw [Function.comp_apply, plainChar, hbyte c hc, Char.ofNat_toNat]
    rfl
  have hlow : ∀ b ∈ bytes s, b < 0x80 := by
    rw [hbytes]
    intro b hb
    obtain ⟨c, hc, rfl⟩ := List.mem_map.mp hb
    rw [UInt8.lt_iff_toNat_lt, hbyte c hc]
    exact hplain c hc
  rw [text_of_plain hlow (hchars ▸ hreturn), hchars, String.ofList_toList]

end Qualify.Utf8
