import Mathlib.Data.List.SplitBy
import Qualify.Proofs.Text.Utf8
import Qualify.Yaml.Writer

/-!
# What is written as YAML

Whatever the texts in a document hold, it is written with line feeds and the characters from the blank
to the tilde alone (`Yaml.areShown_write`): other characters are escaped.  So a file with the written
text in UTF-8 is read as this very text (`Yaml.text_write`), whatever lines are folded in it.
-/

namespace Qualify.Yaml

/-! ## Shown characters -/

/-- A line feed, or a character that is printed as it is everywhere. -/
def IsShown (c : Char) : Prop := c = '\n' ∨ ' ' ≤ c ∧ c ≤ '~'

instance (c : Char) : Decidable (IsShown c) :=
  inferInstanceAs (Decidable (c = '\n' ∨ ' ' ≤ c ∧ c ≤ '~'))

/-- Every character is shown. -/
def AreShown (cs : List Char) : Prop := ∀ c ∈ cs, IsShown c

-- along the list, and not through all characters that there are
instance (cs : List Char) : Decidable (AreShown cs) := List.decidableBAll IsShown cs

variable {cs ds : List Char}

@[simp] theorem areShown_append : AreShown (cs ++ ds) ↔ AreShown cs ∧ AreShown ds :=
  List.forall_mem_append

theorem areShown_cons {c : Char} : AreShown (c :: cs) ↔ IsShown c ∧ AreShown cs :=
  List.forall_mem_cons

theorem areShown_reverse : AreShown cs.reverse ↔ AreShown cs := by
  simp only [AreShown, List.mem_reverse]

theorem areShown_replicate {c : Char} (h : IsShown c) (n : Nat) : AreShown (List.replicate n c) :=
  fun _ hd => List.eq_of_mem_replicate hd ▸ h

theorem areShown_replaceChar {old : Char} (hnew : AreShown ds) (h : AreShown cs) :
    AreShown (Text.replaceChar old ds cs) := by
  intro c hc
  obtain ⟨d, hd, hc⟩ := List.mem_flatMap.mp hc
  split at hc
  · exact hnew c hc
  · exact List.mem_singleton.mp hc ▸ h d hd

theorem isShown_of_needsEscape {c : Char} (h : Style.needsEscape c = false) : IsShown c := by
  simp only [Style.needsEscape, Bool.and_eq_false_iff, bne_eq_false_iff_eq, Bool.not_eq_false',
    Bool.and_eq_true, decide_eq_true_eq] at h
  exact h

/-! ## Numbers -/

theorem areShown_repr (n : Nat) : AreShown n.repr.toList := by
  intro c hc
  rw [Nat.toList_repr] at hc
  have hdigit := Nat.isDigit_of_mem_toDigits (by decide) (by decide) hc
  simp only [Char.isDigit, Bool.and_eq_true, decide_eq_true_eq] at hdigit
  exact .inr ⟨Char.le_trans (by decide) hdigit.1, Char.le_trans hdigit.2 (by decide)⟩

theorem areShown_toString (n : Int) : AreShown (toString n).toList := by
  cases n with
  | ofNat m => exact areShown_repr m
  | negSucc m =>
      show AreShown ("-" ++ (m + 1).repr).toList
      rw [String.toList_append, areShown_append]
      exact ⟨by decide, areShown_repr (m + 1)⟩

theorem areShown_layout {digits : List Char} (h : AreShown digits) (place : Int) :
    AreShown (Binary64.layout digits place).toList := by
  have hzeros : ∀ n, AreShown (List.replicate n '0') := areShown_replicate (by decide)
  have htake : ∀ n, AreShown (digits.take n) := fun n c hc => h c (List.mem_of_mem_take hc)
  have hdrop : ∀ n, AreShown (digits.drop n) := fun n c hc => h c (List.mem_of_mem_drop hc)
  have hexponent : ∀ n : Nat, AreShown (toString n).toList := areShown_repr
  unfold Binary64.layout
  split
  · split
    · simp only [String.toList_ofList, areShown_append]
      exact ⟨⟨by decide, hzeros _⟩, h⟩
    · dsimp only
      split
      · simp only [String.toList_ofList, areShown_append]
        exact ⟨⟨h, hzeros _⟩, by decide⟩
      · simp only [String.toList_ofList, areShown_append, areShown_cons]
        exact ⟨htake _, by decide, hdrop _⟩
  · simp only [String.toList_append, String.toList_ofList, areShown_append]
    refine ⟨⟨⟨?_, by decide⟩, ?_⟩, ?_⟩
    · match digits with
      | [] | [d] => exact h
      | d :: d' :: ds =>
          obtain ⟨hd, hds⟩ := areShown_cons.mp h
          exact areShown_cons.mpr ⟨hd, areShown_cons.mpr ⟨by decide, hds⟩⟩
    · split <;> decide
    · split
      · rw [String.toList_append, areShown_append]
        exact ⟨by decide, hexponent _⟩
      · exact hexponent _

theorem areShown_text (x : Binary64) : AreShown x.text.toList := by
  unfold Binary64.text
  split
  · decide
  · split <;> decide
  · rw [String.toList_append, areShown_append]
    constructor
    · unfold Decimal.signText
      split <;> decide
    · split
      · decide
      · exact areShown_layout (fun c hc => areShown_repr _ c (List.mem_of_mem_take hc)) _

theorem areShown_floatText (x : Binary64) : AreShown (floatText x).toList := by
  unfold floatText
  split
  · decide
  · split <;> decide
  · dsimp only
    split
    · exact areShown_text _
    · rw [String.toList_ofList]
      exact areShown_replaceChar (by decide) (areShown_text _)

/-! ## Escapes -/

theorem areShown_upperHexDigits (width n : Nat) : AreShown (upperHexDigits width n) := by
  have hdigit : ∀ d < 16, IsShown (Nat.digitChar d).toUpper := by decide
  induction width generalizing n with
  | zero => exact List.forall_mem_nil _
  | succ width ih =>
      rw [upperHexDigits, areShown_append]
      exact ⟨ih _, List.forall_mem_singleton.mpr (hdigit _ (Nat.mod_lt _ (by decide)))⟩

/-- Any character is escaped by shown ones. -/
theorem areShown_escaped (c : Char) : AreShown (escaped c) := by
  have hletters : ∀ e ∈ escapeLetters, IsShown e.2 := by decide
  have hbackslash : IsShown '\\' := by decide
  unfold escaped
  split
  case h_1 e he =>
    have hletter : IsShown e := hletters _ (List.mem_of_lookup_eq_some he)
    exact areShown_cons.mpr ⟨hbackslash, List.forall_mem_singleton.mpr hletter⟩
  case h_2 =>
    have hdigits : ∀ letter width, IsShown letter →
        AreShown ('\\' :: letter :: upperHexDigits width c.toNat) := fun letter width hletter =>
      areShown_cons.mpr ⟨hbackslash, areShown_cons.mpr ⟨hletter, areShown_upperHexDigits _ _⟩⟩
    split
    · exact hdigits 'x' 2 (by decide)
    · split
      · exact hdigits 'u' 4 (by decide)
      · exact hdigits 'U' 8 (by decide)

theorem isShown_of_isEscaped {c : Char} (h : isEscaped c = false) : IsShown c := by
  simp only [isEscaped, Bool.or_eq_false_iff] at h
  exact isShown_of_needsEscape h.1.1.1

/-! ## Pages -/

namespace Page

/-- Everything on the page is shown. -/
def IsShown (p : Page) : Prop := AreShown p.written

variable {p : Page}

theorem IsShown.add (h : p.IsShown) (hcs : AreShown cs) : (p.add cs).IsShown :=
  areShown_append.mpr ⟨areShown_reverse.mpr hcs, h⟩

theorem IsShown.breakLine (h : p.IsShown) : p.breakLine.IsShown :=
  areShown_cons.mpr ⟨by decide, h⟩

theorem IsShown.text (h : p.IsShown) : AreShown p.text.toList := by
  rw [Page.text, String.toList_ofList]
  exact areShown_reverse.mpr h

theorem IsShown.pad (h : p.IsShown) (column : Nat) : (p.pad column).IsShown := by
  unfold Page.pad
  split
  · exact h.add (areShown_replicate (by decide) _)
  · exact h

theorem IsShown.startLine (h : p.IsShown) (column : Nat) : (p.startLine column).IsShown := by
  unfold Page.startLine
  split
  · exact h.breakLine.pad column
  · exact h.pad column

theorem IsShown.close (h : p.IsShown) (hcs : AreShown cs) : (p.close cs).IsShown := h.add hcs

theorem IsShown.word (h : p.IsShown) (hcs : AreShown cs) : (p.word cs).IsShown := by
  unfold Page.word
  split
  · exact h.close hcs
  · exact h.close (areShown_cons.mpr ⟨by decide, hcs⟩)

theorem IsShown.entry {c : Char} (h : p.IsShown) (hc : Yaml.IsShown c) : (p.entry c).IsShown :=
  h.word (List.forall_mem_singleton.mpr hc)

end Page

/-! ## Texts -/

namespace Folding

variable {f : Folding} {p : Page}

theorem areShown_of_mem_runs (h : AreShown cs) {run : List Char} (hrun : run ∈ runs cs) :
    AreShown run := by
  intro c hc
  have hmem : c ∈ (runs cs).flatten := List.mem_flatten_of_mem hrun hc
  rw [runs, List.flatten_splitBy] at hmem
  exact h c hmem

theorem isShown_nextLine (h : p.IsShown) : (f.nextLine p).IsShown := h.breakLine.pad f.column

theorem isShown_plain (h : p.IsShown) (hcs : AreShown cs) : (f.plain cs p).IsShown := by
  have hruns : ∀ (rs : List (List Char)) {p : Page}, (∀ run ∈ rs, AreShown run) → p.IsShown →
      (rs.foldl f.plainRun p).IsShown := by
    intro rs
    induction rs with
    | nil => exact fun _ h => h
    | cons run rs ih =>
        intro p hrs h
        obtain ⟨hrun, hrs⟩ := List.forall_mem_cons.mp hrs
        refine ih hrs ?_
        unfold plainRun
        split
        · exact isShown_nextLine h
        · exact h.add hrun
  exact (hruns _ (fun _ => areShown_of_mem_runs hcs) (h.word (List.forall_mem_nil _))).close
    (List.forall_mem_nil _)

theorem isShown_singleRun {run : List Char} (h : p.IsShown) (hrun : AreShown run)
    (isEdge : Bool) : (f.singleRun isEdge p run).IsShown := by
  unfold singleRun
  split
  · have hbreaks : ∀ (cs : List Char) {p : Page}, p.IsShown →
        (cs.foldl (fun p _ => p.breakLine) p).IsShown := by
      intro cs
      induction cs with
      | nil => exact fun h => h
      | cons c cs ih => exact fun h => ih h.breakLine
    exact (hbreaks run h.breakLine).pad f.column
  · split
    · exact isShown_nextLine h
    · exact h.add (areShown_replaceChar (by decide) hrun)

theorem isShown_singleRuns {rs : List (List Char)} (hrs : ∀ run ∈ rs, AreShown run)
    (isFirst : Bool) (h : p.IsShown) : (f.singleRuns isFirst rs p).IsShown := by
  induction rs generalizing isFirst p with
  | nil => exact h
  | cons run rs ih =>
      obtain ⟨hrun, hrs⟩ := List.forall_mem_cons.mp hrs
      exact ih hrs false (isShown_singleRun h hrun _)

theorem isShown_single (h : p.IsShown) (hcs : AreShown cs) : (f.single cs p).IsShown :=
  (isShown_singleRuns (fun _ => areShown_of_mem_runs hcs) true (h.word (by decide))).close
    (by decide)

theorem isShown_escapedLine (h : p.IsShown) (rest : List Char) :
    (f.escapedLine rest p).IsShown := by
  have hline : (f.nextLine (p.add ['\\'])).IsShown := isShown_nextLine (h.add (by decide))
  unfold escapedLine
  dsimp only
  split
  · exact hline.add (by decide)
  · exact hline

/-- Between double quotes any text is shown. -/
theorem isShown_doubleFrom (h : p.IsShown) (isFirst afterEscape : Bool) (cs : List Char) :
    (f.doubleFrom isFirst afterEscape cs p).IsShown := by
  induction cs generalizing isFirst afterEscape p with
  | nil => exact h
  | cons c rest ih =>
      rw [doubleFrom]
      dsimp only
      split
      case isTrue hc =>
        have hadd := h.add (areShown_escaped c)
        refine ih ?_ _ _
        split
        · exact isShown_escapedLine hadd rest
        · exact hadd
      case isFalse hc =>
        have hshown : AreShown [c] :=
          List.forall_mem_singleton.mpr (isShown_of_isEscaped (Bool.eq_false_iff.mpr hc))
        refine ih (Page.IsShown.add ?_ hshown) _ _
        split
        · exact isShown_escapedLine h _
        · exact h

theorem isShown_double (h : p.IsShown) (cs : List Char) : (f.double cs p).IsShown :=
  (isShown_doubleFrom (h.word (by decide)) _ _ cs).close (by decide)

/-- What needs an escape goes between double quotes. -/
theorem areShown_of_style {s : String} (h : Style.ofText s ≠ .double) : AreShown s.toList := by
  have hany : s.toList.any Style.needsEscape = false := by
    unfold Style.ofText at h
    split at h
    case isTrue hplain =>
      simp only [Style.isPlain, Bool.and_eq_true, Bool.not_eq_true'] at hplain
      exact hplain.2.1.1.1.1.2
    case isFalse =>
      split at h
      case isTrue hquotable =>
        simp only [Style.isQuotable, Bool.and_eq_true, Bool.not_eq_true'] at hquotable
        exact hquotable.1.1
      case isFalse => exact absurd rfl h
  intro c hc
  exact isShown_of_needsEscape (Bool.eq_false_iff.mpr (List.any_eq_false.mp hany c hc))

/-- A text is shown whatever it holds. -/
theorem isShown_text (h : p.IsShown) (s : String) : (f.text s p).IsShown := by
  unfold Folding.text
  cases hstyle : Style.ofText s with
  | plain => exact isShown_plain h (areShown_of_style (hstyle ▸ nofun))
  | single => exact isShown_single h (areShown_of_style (hstyle ▸ nofun))
  | double => exact isShown_double h _

end Folding

/-! ## Documents -/

variable {p : Page}

theorem isShown_writeKey (column : Nat) (key : String) (h : p.IsShown) :
    (writeKey column key p).IsShown := by
  have hstart := h.startLine column
  unfold writeKey
  dsimp only
  split
  · exact (Folding.isShown_text hstart key).close (by decide)
  · exact ((Folding.isShown_text (hstart.entry (by decide)) key).startLine column).entry (by decide)

mutual

theorem isShown_writeNode (column : Nat) (inMapping : Bool) (j : Json) {p : Page}
    (h : p.IsShown) : (writeNode column inMapping j p).IsShown :=
  match j with
  | .null => h.word (by decide)
  | .bool true => h.word (by decide)
  | .bool false => h.word (by decide)
  | .int n => h.word (areShown_toString n)
  | .float x => h.word (areShown_floatText x)
  | .text s => Folding.isShown_text h s
  | .array [] => h.word (by decide)
  | .array (x :: xs) => isShown_writeItems _ (x :: xs) h
  | .object [] => h.word (by decide)
  | .object (e :: es) => isShown_writeEntries _ (e :: es) h

theorem isShown_writeItems (column : Nat) (xs : List Json) {p : Page} (h : p.IsShown) :
    (writeItems column xs p).IsShown :=
  match xs with
  | [] => h
  | x :: xs =>
    isShown_writeItems column xs
      (isShown_writeNode column false x ((h.startLine column).entry (by decide)))

theorem isShown_writeEntries (column : Nat) (es : List (String × Json)) {p : Page}
    (h : p.IsShown) : (writeEntries column es p).IsShown :=
  match es with
  | [] => h
  | (k, x) :: es =>
    isShown_writeEntries column es (isShown_writeNode column true x (isShown_writeKey column k h))

end

/-- A document is written with shown characters, whatever it holds. -/
theorem areShown_write (es : List (String × Json)) : AreShown (write es).toList := by
  have hempty : ({} : Page).IsShown := List.forall_mem_nil _
  unfold write
  dsimp only
  refine (Page.IsShown.startLine ?_ 0).text
  split
  · exact hempty.word (by decide)
  · exact isShown_writeEntries 0 es hempty

/-- A file with a written document holds the text as it was written. -/
theorem text_write (es : List (String × Json)) :
    Utf8.text (Utf8.bytes (write es)) = .ok (write es) := by
  have hshown := areShown_write es
  refine Utf8.text_bytes (fun c hc => ?_) fun hreturn => ?_
  · rcases hshown c hc with rfl | ⟨-, hle⟩
    · decide
    · exact Nat.lt_of_le_of_lt (Char.le_def.mp hle) (by decide)
  · exact absurd (hshown _ hreturn) (by decide)

end Qualify.Yaml
