import Qualify.Failure
import Qualify.Proofs.Number.Order
import Qualify.Proofs.Text.Case

/-!
# Decimals read back from their texts

A numeral is a sign, digits with a point among them and an exponent; it is read as the number that
its digits denote, shifted by the places behind the point and by the exponent
(`Decimal.ofText_eq`).  What a finite decimal is written as is such a numeral, in either of its two
forms, and reads back as the same decimal with the same coefficient (`Decimal.ofText_text`).  So does
an integer (`Decimal.ofText_toString`).
-/

namespace Qualify.Decimal

/-! ## Characters -/

theorem exists_digitChar {c : Char} (h : c.isDigit) : ∃ d < 10, c = Nat.digitChar d := by
  have hrange : 48 ≤ c.toNat ∧ c.toNat ≤ 57 := by
    simpa [Char.isDigit, UInt32.le_iff_toNat_le] using h
  refine ⟨c.toNat - 48, by omega, Char.toNat_inj.mp ?_⟩
  rw [Nat.toNat_digitChar_of_lt_ten (by omega)]
  omega

/-- Every character of a row is a digit. -/
def AreDigits (cs : List Char) : Prop := ∀ c ∈ cs, c.isDigit

theorem AreDigits.append {cs ds : List Char} (hcs : AreDigits cs) (hds : AreDigits ds) :
    AreDigits (cs ++ ds) :=
  List.forall_mem_append.mpr ⟨hcs, hds⟩

theorem areDigits_replicate_zero (n : ℕ) : AreDigits (List.replicate n '0') :=
  fun _ hc => List.eq_of_mem_replicate hc ▸ by decide

theorem areDigits_toDigits (n : ℕ) : AreDigits (Nat.toDigits 10 n) :=
  fun _ => Nat.isDigit_of_mem_toDigits (by decide) (by decide)

/-- The characters that a numeral is made of. -/
def IsNumeralChar (c : Char) : Prop := c.isDigit ∨ c ∈ ['+', '-', '.', 'e', 'E']

/-- A numeral is plain as it stands. -/
theorem IsNumeralChar.plain {c : Char} (h : IsNumeralChar c) :
    Text.isBlank c = false ∧ c ≠ '_' ∧ c.toNat ≤ 127 := by
  rcases h with hdigit | hmark
  · obtain ⟨d, hd, rfl⟩ := exists_digitChar hdigit
    have hall : ∀ d < 10, Text.isBlank d.digitChar = false ∧ d.digitChar ≠ '_' ∧
        d.digitChar.toNat ≤ 127 := by decide
    exact hall d hd
  · simp only [List.mem_cons, List.not_mem_nil, or_false] at hmark
    obtain rfl | rfl | rfl | rfl | rfl := hmark <;> decide

theorem toLower_of_isDigit {c : Char} (h : c.isDigit) : c.toLower = c := by
  obtain ⟨d, hd, rfl⟩ := exists_digitChar h
  have hall : ∀ d < 10, d.digitChar.toLower = d.digitChar := by decide
  exact hall d hd

theorem AreDigits.map_toLower {cs : List Char} (h : AreDigits cs) : cs.map Char.toLower = cs :=
  (List.map_congr_left fun c hc => toLower_of_isDigit (h c hc)).trans (List.map_id' cs)

theorem plainText_eq {cs : List Char} (h : ∀ c ∈ cs, IsNumeralChar c) :
    plainText cs = some cs := by
  have htrim : Text.trim cs = cs := Text.IsTrimmed.trimBy_eq
    ⟨fun c hc => (h c (List.mem_of_mem_head? hc)).plain.1,
      fun c hc => (h c (List.mem_of_mem_getLast? hc)).plain.1⟩
  have hfilter : cs.filter (· != '_') = cs :=
    List.filter_eq_self.mpr fun c hc => bne_iff_ne.mpr (h c hc).plain.2.1
  rw [plainText, htrim, hfilter]
  clear htrim hfilter
  induction cs with
  | nil => rfl
  | cons c cs ih =>
      obtain ⟨hc, hcs⟩ := List.forall_mem_cons.mp h
      rw [List.mapM_cons, ih hcs, if_pos hc.plain.2.2]
      rfl

/-! ## Rows of digits -/

theorem numberOfDigits_map (cs : List Char) :
    Text.numberOfDigits (cs.map fun c => c.toNat - '0'.toNat) = Nat.ofDigitChars 10 cs 0 := by
  rw [Text.numberOfDigits, List.foldl_map]
  rfl

/-- A row of digits is taken up to the first character that is none. -/
theorem takeDigits_append {cs rest : List Char} (h : AreDigits cs)
    (hrest : ∀ c ∈ rest.head?, c.isDigit = false) :
    takeDigits (cs ++ rest) = (cs.map fun c => c.toNat - '0'.toNat, rest) := by
  have hsplit : rest.takeWhile Char.isDigit = [] ∧ rest.dropWhile Char.isDigit = rest := by
    cases rest with
    | nil => exact ⟨rfl, rfl⟩
    | cons c rest =>
        have hc : ¬ c.isDigit := by simp [hrest c rfl]
        exact ⟨List.takeWhile_cons_of_neg hc, List.dropWhile_cons_of_neg hc⟩
  rw [takeDigits, List.takeWhile_append_of_pos h, List.dropWhile_append_of_pos h, hsplit.1,
    hsplit.2, List.append_nil]

/-! ## Numerals -/

/-- Digits, with a point among them or without, the number that they denote and how many of them
stand behind the point. -/
inductive IsMantissa : List Char → ℕ → ℕ → Prop
  | whole {ds : List Char} (h : AreDigits ds) (hne : ds ≠ []) :
      IsMantissa ds (Nat.ofDigitChars 10 ds 0) 0
  | pointed {ds fs : List Char} (h : AreDigits ds) (hne : ds ≠ []) (hfs : AreDigits fs) :
      IsMantissa (ds ++ '.' :: fs) (Nat.ofDigitChars 10 (ds ++ fs) 0) fs.length

/-- The exponent behind a mantissa, if there is one. -/
inductive IsExponent : List Char → ℤ → Prop
  | none : IsExponent [] 0
  | plus {e : Char} {ds : List Char} (he : e = 'e' ∨ e = 'E') (h : AreDigits ds) (hne : ds ≠ []) :
      IsExponent (e :: '+' :: ds) (Nat.ofDigitChars 10 ds 0)
  | minus {e : Char} {ds : List Char} (he : e = 'e' ∨ e = 'E') (h : AreDigits ds) (hne : ds ≠ []) :
      IsExponent (e :: '-' :: ds) (-Nat.ofDigitChars 10 ds 0)

/-- An unsigned numeral with the coefficient and the exponent that it is read as. -/
inductive IsNumeral : List Char → ℕ → ℤ → Prop
  | mk {m t : List Char} {c p : ℕ} {x : ℤ} (hm : IsMantissa m c p) (ht : IsExponent t x) :
      IsNumeral (m ++ t) c (x - p)

variable {m t : List Char} {c p : ℕ} {x : ℤ}

theorem IsMantissa.areNumeralChars (hm : IsMantissa m c p) : ∀ ch ∈ m, IsNumeralChar ch := by
  have hdigits : ∀ {ds : List Char}, AreDigits ds → ∀ ch ∈ ds, IsNumeralChar ch :=
    fun h ch hch => .inl (h ch hch)
  cases hm with
  | whole h hne => exact hdigits h
  | pointed h hne hfs =>
      refine List.forall_mem_append.mpr ⟨hdigits h, List.forall_mem_cons.mpr ⟨?_, hdigits hfs⟩⟩
      exact .inr (by decide)

theorem IsExponent.areNumeralChars (ht : IsExponent t x) : ∀ ch ∈ t, IsNumeralChar ch := by
  have hsign : ∀ {e : Char}, (e = 'e' ∨ e = 'E') → IsNumeralChar e := by
    rintro e (rfl | rfl)
    · exact .inr (by decide)
    · exact .inr (by decide)
  cases ht with
  | none => exact List.forall_mem_nil _
  | plus he h hne | minus he h hne =>
      refine List.forall_mem_cons.mpr ⟨hsign he, List.forall_mem_cons.mpr ⟨.inr (by decide), ?_⟩⟩
      exact fun ch hch => .inl (h ch hch)

/-- A mantissa starts with a digit. -/
theorem IsMantissa.exists_cons (hm : IsMantissa m c p) : ∃ d ds, m = d :: ds ∧ d.isDigit := by
  cases hm with
  | whole h hne =>
      obtain ⟨d, ds, rfl⟩ := List.exists_cons_of_ne_nil hne
      exact ⟨d, ds, rfl, h d List.mem_cons_self⟩
  | pointed h hne hfs =>
      obtain ⟨d, ds, rfl⟩ := List.exists_cons_of_ne_nil hne
      exact ⟨d, _, rfl, h d List.mem_cons_self⟩

theorem IsMantissa.map_toLower (hm : IsMantissa m c p) : m.map Char.toLower = m := by
  cases hm with
  | whole h hne => exact h.map_toLower
  | pointed h hne hfs =>
      rw [List.map_append, List.map_cons, h.map_toLower, hfs.map_toLower]
      rfl

/-- An exponent in lower case is nothing, or starts with its letter. -/
theorem IsExponent.eq_nil_or_cons (ht : IsExponent t x) :
    t.map Char.toLower = [] ∨ ∃ ds, t.map Char.toLower = 'e' :: ds := by
  have hletter : ∀ {e : Char}, (e = 'e' ∨ e = 'E') → e.toLower = 'e' := by
    rintro e (rfl | rfl) <;> rfl
  cases ht with
  | none => exact .inl rfl
  | plus he h hne | minus he h hne => exact .inr ⟨_, by rw [List.map_cons, hletter he]⟩

theorem takeDigits_of_areDigits {ds : List Char} (h : AreDigits ds) :
    takeDigits ds = (ds.map fun c => c.toNat - '0'.toNat, []) := by
  have hnone : ∀ c ∈ ([] : List Char).head?, c.isDigit = false := nofun
  have hsplit := takeDigits_append h hnone
  rwa [List.append_nil] at hsplit

theorem readExponent_of_sign {cs ds : List Char} {s : Bool} (hsign : takeSign cs = (s, ds))
    (h : AreDigits ds) (hne : ds ≠ []) : readExponent ('e' :: cs) =
      some (if s then -(Nat.ofDigitChars 10 ds 0 : ℤ) else Nat.ofDigitChars 10 ds 0) := by
  obtain ⟨d, ds, rfl⟩ := List.exists_cons_of_ne_nil hne
  rw [readExponent, if_pos rfl, hsign]
  dsimp only
  rw [takeDigits_of_areDigits h, ← numberOfDigits_map]
  rfl

theorem readExponent_eq (ht : IsExponent t x) : readExponent (t.map Char.toLower) = some x := by
  have hletter : ∀ {e : Char}, (e = 'e' ∨ e = 'E') → e.toLower = 'e' := by
    rintro e (rfl | rfl) <;> rfl
  cases ht with
  | none => rfl
  | plus he h hne =>
      rw [List.map_cons, List.map_cons, hletter he, h.map_toLower]
      exact readExponent_of_sign rfl h hne
  | minus he h hne =>
      rw [List.map_cons, List.map_cons, hletter he, h.map_toLower]
      exact readExponent_of_sign rfl h hne

theorem numeralParts?_append (hm : IsMantissa m c p) (ht : IsExponent t x) :
    numeralParts? (m ++ t.map Char.toLower) = some (c, x - p) := by
  have hread := readExponent_eq ht
  have hhead : (∀ ch ∈ (t.map Char.toLower).head?, ch.isDigit = false) ∧
      ∀ ch ∈ (t.map Char.toLower).head?, ch ≠ '.' := by
    rcases ht.eq_nil_or_cons with hnil | ⟨ds, hcons⟩
    · rw [hnil]
      exact ⟨nofun, nofun⟩
    · rw [hcons]
      constructor
      · rintro ch ⟨⟩
        rfl
      · rintro ch ⟨⟩
        decide
  generalize t.map Char.toLower = rest at hread hhead
  obtain ⟨hdigit, hpoint⟩ := hhead
  unfold numeralParts?
  cases hm with
  | whole h hne =>
      rw [takeDigits_append h hdigit]
      dsimp only
      split
      · exact absurd rfl (hpoint '.' rfl)
      · have hsome : (m.map fun c => c.toNat - '0'.toNat).isEmpty = false := by simpa using hne
        simp only [hsome, Bool.false_and, Bool.false_eq_true, if_false, hread, Option.map_some,
          List.append_nil, numberOfDigits_map, List.length_nil]
  | @pointed ds fs h hne hfs =>
      have hsome : (ds.map fun c => c.toNat - '0'.toNat).isEmpty = false := by simpa using hne
      rw [List.append_assoc, takeDigits_append h (by rintro ch ⟨⟩; rfl)]
      simp only [List.cons_append, takeDigits_append hfs hdigit, hsome, Bool.false_and,
        Bool.false_eq_true, if_false, hread, Option.map_some, ← List.map_append,
        numberOfDigits_map, List.length_map]

namespace IsNumeral

variable {cs : List Char} {e : ℤ}

theorem areNumeralChars (h : IsNumeral cs c e) : ∀ ch ∈ cs, IsNumeralChar ch := by
  obtain ⟨hm, ht⟩ := h
  exact List.forall_mem_append.mpr ⟨hm.areNumeralChars, ht.areNumeralChars⟩

theorem numeralParts?_eq (h : IsNumeral cs c e) :
    numeralParts? (cs.map Char.toLower) = some (c, e) := by
  obtain ⟨hm, ht⟩ := h
  rw [List.map_append, hm.map_toLower]
  exact numeralParts?_append hm ht

theorem exists_cons (h : IsNumeral cs c e) :
    ∃ d ds, cs.map Char.toLower = d :: ds ∧ d.isDigit := by
  obtain ⟨hm, ht⟩ := h
  obtain ⟨d, ds, rfl, hd⟩ := hm.exists_cons
  exact ⟨d, ds ++ _, by rw [List.map_append, hm.map_toLower]; rfl, hd⟩

end IsNumeral

/-- A numeral with a sign or without is read as what its digits denote, as long as that can be
written. -/
theorem ofText_eq {text : String} {s : Bool} {cs : List Char} {e : ℤ} (h : IsNumeral cs c e)
    (htext : text.toList = (signText s).toList ++ cs) (hwritable : writable c e) :
    ofText text = .ok (.finite s c e) := by
  have hplain : plainText text.toList = some text.toList := by
    refine plainText_eq ?_
    rw [htext]
    refine List.forall_mem_append.mpr ⟨?_, h.areNumeralChars⟩
    cases s with
    | false => exact List.forall_mem_nil _
    | true => exact List.forall_mem_singleton.mpr (.inr (by decide))
  have hread : readNumeral s (cs.map Char.toLower) = .ok (.finite s c e) := by
    rw [readNumeral, h.numeralParts?_eq]
    exact if_pos hwritable
  obtain ⟨d, ds, hcs, hd⟩ := h.exists_cons
  -- a digit in front is neither a sign nor the start of a word
  have hdigit : ∀ {ch : Char}, ch.isDigit = false → d ≠ ch := by
    rintro ch hch rfl
    exact absurd hd (by rw [hch]; exact Bool.false_ne_true)
  have hsign : takeSign (text.toList.map Char.toLower) = (s, d :: ds) := by
    rw [htext, List.map_append, hcs]
    cases s with
    | true => rfl
    | false =>
        show takeSign (d :: ds) = _
        unfold takeSign
        split
        · case h_1 heq => exact absurd (List.cons.inj heq).1 (hdigit rfl)
        · case h_2 heq => exact absurd (List.cons.inj heq).1 (hdigit rfl)
        · rfl
  unfold ofText
  rw [hplain]
  dsimp only
  rw [hsign]
  dsimp only
  split
  · case h_1 heq => exact absurd (List.cons.inj heq).1 (hdigit rfl)
  · case h_2 heq => exact absurd (List.cons.inj heq).1 (hdigit rfl)
  · case h_3 heq => exact absurd (List.cons.inj heq).1 (hdigit rfl)
  · exact hcs ▸ hread

/-! ## Texts of decimals -/

theorem isMantissa_toDigits (n : ℕ) : IsMantissa (Nat.toDigits 10 n) n 0 := by
  have h := IsMantissa.whole (areDigits_toDigits n) Nat.toDigits_ne_nil
  rwa [Nat.ofDigitChars_ten_toDigits] at h

/-- A point among digits changes nothing in the number that they denote. -/
theorem isMantissa_take_drop {ds : List Char} (h : AreDigits ds) (hne : ds ≠ []) {k : ℕ}
    (hk : 0 < k) :
    IsMantissa (ds.take k ++ '.' :: ds.drop k) (Nat.ofDigitChars 10 ds 0) (ds.length - k) := by
  have hwhole : ds.take k ≠ [] := fun hnil => (List.take_eq_nil_iff.mp hnil).elim hk.ne' hne
  have hmantissa := IsMantissa.pointed (fun c hc => h c (List.mem_of_mem_take hc)) hwhole
    fun c (hc : c ∈ ds.drop k) => h c (List.mem_of_mem_drop hc)
  rwa [List.take_append_drop, List.length_drop] at hmantissa

theorem ofDigitChars_zeros_append (n : ℕ) (ds : List Char) :
    Nat.ofDigitChars 10 (List.replicate n '0' ++ ds) 0 = Nat.ofDigitChars 10 ds 0 := by
  rw [Nat.ofDigitChars_append, Nat.ofDigitChars_replicate_zero, Nat.mul_zero]

/-- Digits with zeros before them and a point among them denote what they denote without. -/
theorem isMantissa_pointed (n places : ℕ) :
    IsMantissa (pointed (toString n) places).toList n places := by
  have hlist : (toString n).toList = Nat.toDigits 10 n := Nat.toList_repr
  have hpos : 0 < (Nat.toDigits 10 n).length := Nat.length_toDigits_pos
  unfold pointed
  rw [hlist]
  dsimp only
  by_cases hplaces : places = 0
  · have hnone : 0 + 1 - (Nat.toDigits 10 n).length = 0 := by omega
    subst hplaces
    rw [if_pos rfl, String.toList_ofList, hnone]
    exact isMantissa_toDigits n
  · rw [if_neg hplaces, String.toList_ofList]
    generalize hfill : places + 1 - (Nat.toDigits 10 n).length = zeros
    have hdigits : AreDigits (List.replicate zeros '0' ++ Nat.toDigits 10 n) :=
      (areDigits_replicate_zero zeros).append (areDigits_toDigits n)
    have hvalue : Nat.ofDigitChars 10 (List.replicate zeros '0' ++ Nat.toDigits 10 n) 0 = n := by
      rw [ofDigitChars_zeros_append, Nat.ofDigitChars_ten_toDigits]
    have hlength : places < (List.replicate zeros '0' ++ Nat.toDigits 10 n).length := by
      rw [List.length_append, List.length_replicate]
      omega
    have h := isMantissa_take_drop hdigits (List.ne_nil_of_length_pos (Nat.zero_lt_of_lt hlength))
      (Nat.sub_pos_of_lt hlength)
    rwa [hvalue, Nat.sub_sub_self hlength.le] at h

/-- A mantissa alone is a numeral. -/
theorem IsMantissa.isNumeral (hm : IsMantissa m c p) : IsNumeral m c (-p) := by
  have h := IsNumeral.mk hm .none
  rwa [List.append_nil, zero_sub] at h

/-- An exponent is its letter, its sign and the digits of its magnitude. -/
theorem isExponent_cons {e : Char} (he : e = 'e' ∨ e = 'E') {ds : List Char} (hds : AreDigits ds)
    (hne : ds ≠ []) {n : ℤ} (hvalue : Nat.ofDigitChars 10 ds 0 = n.natAbs) :
    IsExponent (e :: (if n < 0 then '-' else '+') :: ds) n := by
  rcases lt_or_ge n 0 with hn | hn
  · have h := IsExponent.minus he hds hne
    have hsign : -(n.natAbs : ℤ) = n := by omega
    rw [if_pos hn]
    rwa [hvalue, hsign] at h
  · have h := IsExponent.plus he hds hne
    have hsign : (n.natAbs : ℤ) = n := by omega
    rw [if_neg (not_lt.mpr hn)]
    rwa [hvalue, hsign] at h

/-- A decimal that can be written is read back from its text with the same coefficient. -/
theorem ofText_text {s : Bool} {c : ℕ} {e : ℤ} (h : writable c e) :
    ofText (text (.finite s c e)) = .ok (.finite s c e) := by
  have hpos : 0 < (toString c).length := by
    rw [← String.length_toList, show (toString c).toList = Nat.toDigits 10 c from Nat.toList_repr]
    exact Nat.length_toDigits_pos
  unfold text
  dsimp only
  split
  · case isTrue hplain =>
      have hnumeral := (isMantissa_pointed c e.natAbs).isNumeral
      rw [show -(e.natAbs : ℤ) = e by omega] at hnumeral
      exact ofText_eq hnumeral String.toList_append h
  · have hexponent : e + (toString c).length - 1 - ((toString c).length - 1 : ℕ) = e := by omega
    generalize (toString c).length = places at *
    have hnumeral := IsNumeral.mk (isMantissa_pointed c (places - 1))
      (isExponent_cons (.inr rfl) (areDigits_toDigits (e + places - 1).natAbs) Nat.toDigits_ne_nil
        Nat.ofDigitChars_ten_toDigits)
    rw [hexponent] at hnumeral
    refine ofText_eq hnumeral ?_ h
    have hrepr : (toString (e + places - 1).natAbs).toList =
        Nat.toDigits 10 (e + places - 1).natAbs := Nat.toList_repr
    simp only [String.toList_append, hrepr, List.append_assoc]
    split
    · rfl
    · rfl

theorem digitCount_le_of_lt {n d : ℕ} (hd : 0 < d) (h : n < tenTo d) : digitCount n ≤ d :=
  (digitCount_le_iff hd).mpr h

/-- An integer that can be written is read back from its text. -/
theorem ofText_toString {n : ℤ} (h : n.natAbs < tenTo digitLimit) :
    ofText (toString n) = .ok (ofInt n) := by
  have hwritable : writable n.natAbs 0 := by
    have hdigits : digitCount n.natAbs ≤ digitLimit := digitCount_le_of_lt (by decide) h
    have hlimit : (digitLimit : ℤ) ≤ largestWritten := by decide
    simp only [writable, Bool.and_eq_true, decide_eq_true_eq]
    refine ⟨by decide, ?_⟩
    split
    · decide
    · rw [decide_eq_true_eq]
      omega
  have htext : (toString n).toList = (signText (n < 0)).toList ++ Nat.toDigits 10 n.natAbs := by
    rw [Int.toString_eq_repr, Int.repr_eq_if]
    rcases lt_or_ge n 0 with hn | hn
    · have habs : (-n).toNat = n.natAbs := by omega
      rw [if_neg (not_le.mpr hn), habs, String.toList_append, Nat.toList_repr, decide_eq_true hn]
      rfl
    · have habs : n.toNat = n.natAbs := by omega
      rw [if_pos hn, habs, Nat.toList_repr, decide_eq_false (not_lt.mpr hn)]
      rfl
  exact ofText_eq (isMantissa_toDigits n.natAbs).isNumeral htext hwritable

end Qualify.Decimal
