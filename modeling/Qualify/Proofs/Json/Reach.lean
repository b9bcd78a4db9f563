import Qualify.Json.Reader
import Qualify.Proofs.Except

/-!
# How far a reader of JSON gets

A reader takes something off the start of a text and leaves the rest, or it stops at a fault.  In
either case all that it saw stands in the text (`Json.Reads`), so that an integer of too many digits
is reported only where as many digits stand side by side (`Json.hasDigits_of_longInteger`).
-/

namespace Qualify.Json

/-- Somewhere in a text these many digits stand side by side. -/
def HasDigits (n : Nat) (cs : List Char) : Prop :=
  ∃ ds, ds <:+: cs ∧ ds.length = n ∧ ∀ c ∈ ds, c.isDigit

variable {α β : Type} {n : Nat} {cs cs' : List Char}

theorem HasDigits.mono (h : HasDigits n cs) (hcs : cs <:+ cs') : HasDigits n cs' := by
  obtain ⟨ds, hds, hlength, hdigits⟩ := h
  exact ⟨ds, hds.trans hcs.isInfix, hlength, hdigits⟩

/-- The outcome of a reader on a text: it leaves an end of the text, or it is stopped by something
that stands there. -/
inductive Reads (cs : List Char) : Except ReadFault (α × List Char) → Prop
  | ok (a : α) {rest : List Char} (h : rest <:+ cs) : Reads cs (.ok (a, rest))
  | complaint (c : Complaint) (left : Nat) : Reads cs (.error (.complaint c left))
  | longInteger {n : Nat} (hn : digitLimit < n) (h : HasDigits n cs) :
    Reads cs (.error (.longInteger n))

namespace Reads

variable {x : Except ReadFault (α × List Char)}

theorem mono (h : Reads cs x) (hcs : cs <:+ cs') : Reads cs' x := by
  cases h with
  | ok a h => exact .ok a (h.trans hcs)
  | complaint c left => exact .complaint c left
  | longInteger hn h => exact .longInteger hn (h.mono hcs)

theorem complain (c : Complaint) (here : List Char) :
    Reads cs (Json.complain c here : Except ReadFault (α × List Char)) := .complaint c _

/-- What goes on where another reader stopped. -/
theorem bind {f : α × List Char → Except ReadFault (β × List Char)} (hx : Reads cs x)
    (hf : ∀ a rest, Reads rest (f (a, rest))) : Reads cs (x >>= f) := by
  cases hx with
  | ok a h => exact (hf a _).mono h
  | complaint c left => exact .complaint c left
  | longInteger hn h => exact .longInteger hn h

end Reads

/-! ## Strings -/

theorem skipSpace_suffix (cs : List Char) : skipSpace cs <:+ cs := List.dropWhile_suffix _

theorem hexQuad?_suffix {r : List Char} (h : hexQuad? cs = some (n, r)) : r <:+ cs := by
  unfold hexQuad? at h
  split at h
  · case h_1 a b c d rest =>
      simp only [Option.bind_eq_bind, Option.bind_eq_some_iff, Option.pure_def,
        Option.some.injEq, Prod.mk.injEq] at h
      obtain ⟨_, -, _, -, _, -, _, -, -, rfl⟩ := h
      exact List.suffix_append [a, b, c, d] rest
  · cases h

theorem reads_unicodeEscape (here cs : List Char) : Reads cs (unicodeEscape here cs) := by
  unfold unicodeEscape
  split
  · exact .complain _ _
  · split
    · exact .complain _ _
    · case h_2 n rest hquad =>
        have hrest := hexQuad?_suffix hquad
        split
        · split
          · case h_1 rest' _ =>
              split
              · exact .complain _ _
              · case h_2 m rest'' hquad' =>
                  have hrest'' :=
                    (hexQuad?_suffix hquad').trans (List.suffix_append ['\\', 'u'] rest')
                  split
                  · exact .ok _ (hrest''.trans hrest)
                  · exact .ok _ hrest
          · exact .ok _ hrest
        · exact .ok _ hrest

theorem reads_stringBody (opening : List Char) (fuel : Nat) (acc cs : List Char) :
    Reads cs (stringBody opening fuel acc cs) := by
  induction fuel generalizing acc cs with
  | zero => exact .complain _ _
  | succ fuel ih =>
      unfold stringBody
      split
      · exact .complain _ _
      · exact .ok _ (List.suffix_cons _ _)
      · case h_3 rest =>
          refine Reads.mono ?_ (List.suffix_cons _ rest)
          split
          · exact .complain _ _
          · case h_2 rest' =>
              refine Reads.mono ?_ (List.suffix_cons _ rest')
              exact (reads_unicodeEscape _ _).bind fun c rest'' => ih _ _
          · case h_3 c rest' _ =>
              refine Reads.mono ?_ (List.suffix_cons _ rest')
              split
              · exact ih _ _
              · exact .complain _ _
      · case h_4 c rest _ _ =>
          refine Reads.mono ?_ (List.suffix_cons _ rest)
          split
          · exact .complain _ _
          · exact ih _ _

theorem reads_string (cs : List Char) : Reads cs (string cs) :=
  (reads_stringBody _ _ _ _).mono (List.tail_suffix cs)

/-! ## Numbers -/

theorem takeDigits_suffix (cs : List Char) : (Decimal.takeDigits cs).2 <:+ cs :=
  List.dropWhile_suffix _

theorem hasDigits_takeDigits (cs : List Char) :
    HasDigits (Decimal.takeDigits cs).1.length cs := by
  refine ⟨cs.takeWhile Char.isDigit, (List.takeWhile_prefix _).isInfix, ?_, ?_⟩
  · rw [Decimal.takeDigits, List.length_map]
  · exact List.all_eq_true.mp List.all_takeWhile

theorem takeSign_suffix (cs : List Char) : (Decimal.takeSign cs).2 <:+ cs := by
  unfold Decimal.takeSign
  split
  · exact List.suffix_cons _ _
  · exact List.suffix_cons _ _
  · exact List.suffix_refl _

theorem fractionPart_suffix (cs : List Char) : (fractionPart cs).2 <:+ cs := by
  unfold fractionPart
  split
  · case h_1 rest =>
      split
      · exact List.suffix_refl _
      · exact (takeDigits_suffix rest).trans (List.suffix_cons _ _)
  · exact List.suffix_refl _

theorem exponentPart_suffix (cs : List Char) : (exponentPart cs).2 <:+ cs := by
  unfold exponentPart
  split
  · case h_1 c rest =>
      split
      · dsimp only
        split
        · exact List.suffix_refl _
        · case h_2 ds rest' _ hdigits =>
            have hrest' := takeDigits_suffix (Decimal.takeSign rest).2
            rw [hdigits] at hrest'
            exact (hrest'.trans (takeSign_suffix rest)).trans (List.suffix_cons _ _)
      · exact List.suffix_refl _
  · exact List.suffix_refl _

theorem reads_unsigned (here : List Char) (s : Bool) (cs : List Char) :
    Reads cs (unsigned here s cs) := by
  unfold unsigned
  split
  case h_1 whole rest hsplit =>
  have hwhole : rest <:+ cs ∧ (digitLimit < whole.length → HasDigits whole.length cs) := by
    split at hsplit
    · cases hsplit
      exact ⟨List.suffix_cons _ _, fun hlong => absurd hlong (by decide)⟩
    · have hdigits := takeDigits_suffix cs
      rw [hsplit] at hdigits
      exact ⟨hdigits, fun _ => by simpa [hsplit] using hasDigits_takeDigits cs⟩
  obtain ⟨hrest, hdigits⟩ := hwhole
  have hexponent : (exponentPart (fractionPart rest).2).2 <:+ cs :=
    ((exponentPart_suffix _).trans (fractionPart_suffix _)).trans hrest
  split
  · exact .complain _ _
  · dsimp only
    split
    · split
      · case isTrue hlong => exact .longInteger hlong (hdigits hlong)
      · exact .ok _ hexponent
    · exact .ok _ hexponent

theorem reads_scalar (cs : List Char) : Reads cs (scalar cs) := by
  unfold scalar
  split
  · exact .ok _ (List.drop_suffix _ _)
  · split
    · exact (reads_unsigned _ _ _).mono (List.suffix_cons _ _)
    · exact reads_unsigned _ _ _

/-! ## Documents -/

section

variable {fuel : Nat} (hvalue : ∀ cs, Reads cs (value fuel cs))
variable (helements : ∀ before cs, Reads cs (elements fuel before cs))
variable (hmembers : ∀ before cs, Reads cs (members fuel before cs))

include helements hmembers in
theorem reads_value_succ (cs : List Char) : Reads cs (value (fuel + 1) cs) := by
  unfold value
  split
  · exact (reads_string _).bind fun s rest => .ok _ (List.suffix_refl _)
  · case h_2 rest =>
      refine Reads.mono ?_ (List.suffix_cons _ rest)
      split
      · case h_1 rest' hspace =>
          exact .ok _ ((List.suffix_cons _ rest').trans (hspace ▸ skipSpace_suffix rest))
      · exact (helements _ _).mono (skipSpace_suffix rest)
  · case h_3 rest =>
      refine Reads.mono ?_ (List.suffix_cons _ rest)
      split
      · case h_1 rest' hspace =>
          exact .ok _ ((List.suffix_cons _ rest').trans (hspace ▸ skipSpace_suffix rest))
      · exact (hmembers _ _).mono (skipSpace_suffix rest)
  · exact reads_scalar _

include hvalue helements in
theorem reads_elements_succ (before : List Json) (cs : List Char) :
    Reads cs (elements (fuel + 1) before cs) := by
  unfold elements
  refine (hvalue cs).bind fun j rest => Reads.mono ?_ (skipSpace_suffix rest)
  dsimp only
  generalize skipSpace rest = after
  split
  · exact .ok _ (List.suffix_cons _ _)
  · case h_2 rest' =>
      refine Reads.mono (helements _ _) ?_
      exact (skipSpace_suffix rest').trans (List.suffix_cons _ rest')
  · exact .complain _ _

include hvalue hmembers in
theorem reads_members_succ (before : List (String × Json)) (cs : List Char) :
    Reads cs (members (fuel + 1) before cs) := by
  unfold members
  split
  · refine (reads_string _).bind fun key rest => Reads.mono ?_ (skipSpace_suffix rest)
    dsimp only
    generalize skipSpace rest = after
    split
    · case h_1 rest' =>
        refine Reads.mono ?_ (List.suffix_cons _ rest')
        refine ((hvalue _).mono (skipSpace_suffix rest')).bind fun j rest =>
          Reads.mono ?_ (skipSpace_suffix rest)
        dsimp only
        generalize skipSpace rest = after
        split
        · exact .ok _ (List.suffix_cons _ _)
        · case h_2 rest' =>
            refine Reads.mono (hmembers _ _) ?_
            exact (skipSpace_suffix rest').trans (List.suffix_cons _ rest')
        · exact .complain _ _
    · exact .complain _ _
  · exact .complain _ _

end

/-- Values, elements and members are read with less and less fuel. -/
theorem reads_value (fuel : Nat) :
    (∀ cs, Reads cs (value fuel cs)) ∧ (∀ before cs, Reads cs (elements fuel before cs)) ∧
      ∀ before cs, Reads cs (members fuel before cs) := by
  induction fuel with
  | zero => exact ⟨fun _ => .complain _ _, fun _ _ => .complain _ _, fun _ _ => .complain _ _⟩
  | succ fuel ih =>
      obtain ⟨hvalue, helements, hmembers⟩ := ih
      constructor
      · exact reads_value_succ helements hmembers
      constructor
      · exact reads_elements_succ hvalue helements
      · exact reads_members_succ hvalue hmembers

/-- An integer has too many digits only where as many digits stand side by side. -/
theorem hasDigits_of_longInteger (h : read cs = .error (.longInteger n)) :
    digitLimit < n ∧ HasDigits n cs := by
  unfold read at h
  split at h
  · cases h
  · rcases Except.bind_eq_error_iff.mp h with h | ⟨⟨j, rest⟩, -, h⟩
    · have hreads := ((reads_value (2 * cs.length + 2)).1 _).mono (skipSpace_suffix cs)
      rw [h] at hreads
      cases hreads with
      | longInteger hn hdigits => exact ⟨hn, hdigits⟩
    · dsimp only at h
      split at h
      · cases h
      · cases h

end Qualify.Json
