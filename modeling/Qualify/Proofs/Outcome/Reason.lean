import Qualify.Proofs.Email.Address
import Qualify.Proofs.Outcome.Weight
import Qualify.Proofs.Text.Ascii
import Qualify.Proofs.Text.Pieces

/-!
# The reasons of weight rules

A weight rule without a reason of its own is explained by the words of its path.  The words are
all that counts, as long as there are any (`weightReason_of_words`), and they are the same however
they are put together in a segment of the path: a change of case, an underscore and a hyphen each
come to one space (`words_spaced_segment`).  So the reason does not tell which of these a field is
spelled with (`weightReason_laws`).
-/

namespace Qualify

namespace Text

variable {p : Char → Bool} {cs w : List Char} {ws : List (List Char)}

/-- No run is empty. -/
theorem ne_nil_of_mem_fieldsBy {f : List Char} (h : f ∈ fieldsBy p cs) : f ≠ [] := by
  induction cs generalizing f with
  | nil => cases h
  | cons c cs ih =>
      cases hc : p c with
      | true =>
          rw [fieldsBy_cons_sep hc] at h
          exact ih h
      | false =>
          cases cs with
          | nil =>
              rw [fieldsBy_cons_end hc (by simp)] at h
              obtain rfl := List.mem_singleton.mp h
              exact List.cons_ne_nil _ _
          | cons d cs =>
              rw [fieldsBy_cons_run hc] at h
              split at h
              · rcases List.mem_cons.mp h with rfl | h
                · exact List.cons_ne_nil _ _
                · exact ih h
              · split at h
                · obtain rfl := List.mem_singleton.mp h
                  exact List.cons_ne_nil _ _
                · case h_2 g gs hfields =>
                    rcases List.mem_cons.mp h with rfl | h
                    · exact List.cons_ne_nil _ _
                    · exact ih (hfields ▸ List.mem_cons_of_mem g h)

/-- A text without separators is one run. -/
theorem fieldsBy_of_forall (hne : w ≠ []) (h : ∀ c ∈ w, p c = false) : fieldsBy p w = [w] := by
  induction w with
  | nil => exact absurd rfl hne
  | cons c w ih =>
      obtain ⟨hc, hw⟩ := List.forall_mem_cons.mp h
      cases w with
      | nil => exact fieldsBy_cons_end hc (by simp)
      | cons d w =>
          rw [fieldsBy_cons_run hc, if_neg (ne_true_of_eq_false (hw d List.mem_cons_self)),
            ih (List.cons_ne_nil d w) hw]

/-- Texts with a space between neighbours are the words of the whole. -/
theorem words_append_flatMap (f : List Char → List Char)
    (hw : w ≠ [] ∧ ∀ c ∈ w, isBlank c = false)
    (h : ∀ v ∈ ws, f v ≠ [] ∧ ∀ c ∈ f v, isBlank c = false) :
    words (w ++ ws.flatMap fun v => ' ' :: f v) = w :: ws.map f := by
  induction ws generalizing w with
  | nil =>
      rw [List.flatMap_nil, List.append_nil]
      exact fieldsBy_of_forall hw.1 hw.2
  | cons v ws ih =>
      obtain ⟨hv, hws⟩ := List.forall_mem_cons.mp h
      have hhead : ∀ c ∈ (' ' :: (f v ++ ws.flatMap fun v => ' ' :: f v)).head?,
          isBlank c = true := by
        intro c hc
        obtain rfl := Option.some.inj hc
        decide
      have htail := ih hv hws
      rw [List.flatMap_cons, List.cons_append, words, fieldsBy_append (.inr hhead),
        fieldsBy_of_forall hw.1 hw.2, fieldsBy_cons_sep (by decide), List.map_cons, ← htail]
      rfl

theorem joinWith_ne_nil (sep : List Char) (hw : w ≠ []) (ws : List (List Char)) :
    joinWith sep (w :: ws) ≠ [] := by
  cases ws with
  | nil => exact hw
  | cons v ws => exact List.append_ne_nil_of_left_ne_nil (List.append_ne_nil_of_left_ne_nil hw _) _

theorem joinWith_cons_eq_flatMap (sep w : List Char) (ws : List (List Char)) :
    joinWith sep (w :: ws) = w ++ ws.flatMap (sep ++ ·) := by
  induction ws generalizing w with
  | nil => exact (List.append_nil w).symm
  | cons v ws ih =>
      rw [joinWith_cons sep w (List.cons_ne_nil v ws), ih, List.flatMap_cons, List.append_assoc,
        List.append_assoc]

end Text

/-! ## The text of a reason -/

/-- A label with its first letter in upper case, and what it is the reason of. -/
def titled : List Char → Except Failure String
  | [] => .error .emptyText
  | c :: cs => .ok (String.ofList (Text.upperChar c ++ cs) ++ " weight")

theorem weightReason_eq (path : String) :
    weightReason path = titled (if (Text.joinWith [' '] (pathWords path)).isEmpty then path.toList
      else Text.joinWith [' '] (pathWords path)) := rfl

theorem exists_titled {label : List Char} (h : label ≠ []) :
    ∃ text, titled label = .ok (text ++ " weight") := by
  cases label with
  | nil => exact absurd rfl h
  | cons c cs => exact ⟨_, rfl⟩

theorem reasonWord_ne_nil {w : List Char} (h : w ≠ []) : reasonWord w ≠ [] := by
  have hlower : Text.lower w ≠ [] := fun hnil => h (Text.lowerAfter_eq_nil_iff.mp hnil)
  have hacronyms : ∀ e ∈ acronyms, e.2.toList ≠ [] := by decide
  unfold reasonWord
  dsimp only
  cases hlookup : acronyms.lookup (String.ofList (Text.lower w)) with
  | none => exact hlower
  | some s =>
      exact hacronyms _ (List.mem_of_lookup_eq_some hlookup)

theorem ne_nil_of_mem_pathWords {path : String} {w : List Char} (h : w ∈ pathWords path) :
    w ≠ [] := by
  obtain ⟨s, -, hw⟩ := List.mem_flatMap.mp h
  obtain ⟨v, hv, rfl⟩ := List.mem_map.mp hw
  exact reasonWord_ne_nil (Text.ne_nil_of_mem_fieldsBy hv)

/-- A path with words has the reason that these make. -/
theorem weightReason_of_words {path : String} (h : pathWords path ≠ []) :
    weightReason path = titled (Text.joinWith [' '] (pathWords path)) := by
  obtain ⟨w, ws, hwords⟩ := List.exists_cons_of_ne_nil h
  have hw : w ≠ [] := ne_nil_of_mem_pathWords (hwords ▸ List.mem_cons_self)
  have hjoin : (Text.joinWith [' '] (pathWords path)).isEmpty = false := by
    rw [hwords, List.isEmpty_eq_false_iff]
    exact Text.joinWith_ne_nil _ hw ws
  rw [weightReason_eq, hjoin, if_neg Bool.false_ne_true]

/-! ## Segments without words -/

/-- The words of a row of segments. -/
def segmentsWords (ss : List (List Char)) : List (List Char) :=
  (ss.filter fun s => s ≠ "fields".toList ∧ s ≠ []).flatMap fun s =>
    (Text.words (spaced false s)).map reasonWord

theorem pathWords_eq (path : String) : pathWords path = segmentsWords (Value.segments path) := rfl

theorem segmentsWords_append (ss ts : List (List Char)) :
    segmentsWords (ss ++ ts) = segmentsWords ss ++ segmentsWords ts := by
  rw [segmentsWords, List.filter_append, List.flatMap_append]
  rfl

/-- The second row has empty segments besides. -/
inductive AddsEmpty : List (List Char) → List (List Char) → Prop
  | nil : AddsEmpty [] []
  | keep {ss ts : List (List Char)} (s : List Char) :
      AddsEmpty ss ts → AddsEmpty (s :: ss) (s :: ts)
  | insert {ss ts : List (List Char)} : AddsEmpty ss ts → AddsEmpty ss ([] :: ts)

theorem AddsEmpty.segmentsWords_eq {ss ts : List (List Char)} (h : AddsEmpty ss ts) :
    segmentsWords ts = segmentsWords ss := by
  induction h with
  | nil => rfl
  | @keep s ss ts _ ih =>
      rw [← List.singleton_append, segmentsWords_append, ih, ← segmentsWords_append,
        List.singleton_append]
  | @insert ss ts _ ih =>
      rw [← List.singleton_append, segmentsWords_append, ih]
      rfl

theorem segments_fields (path : String) :
    Value.segments ("fields." ++ path) = "fields".toList :: Value.segments path := by
  have hfields : Text.splitOn '.' "fields".toList = ["fields".toList] :=
    Text.splitOn_of_notMem (by decide)
  have hpath : ("fields." ++ path).toList = "fields".toList ++ '.' :: path.toList :=
    String.toList_append
  rw [Value.segments, hpath, Text.splitOn_append, hfields]
  rfl

theorem pathWords_fields (path : String) : pathWords ("fields." ++ path) = pathWords path := by
  rw [pathWords_eq, segments_fields, ← List.singleton_append, segmentsWords_append]
  rfl

/-! ## Words in one segment -/

/-- A word of at least two small letters or digits, the first of them a letter. -/
structure IsPlainWord (w : List Char) : Prop where
  two : 2 ≤ w.length
  head : ∀ c ∈ w.head?, Domain.isLetter c = true
  plain : ∀ c ∈ w, Domain.isLetterOrDigit c = true

/-- Ways to write words as one segment. -/
inductive Spelling where
  | camelCase
  | snakeCase
  | kebabCase

/-- A word with a capital for its first letter. -/
def withCapital : List Char → List Char
  | [] => []
  | c :: cs => c.toUpper :: cs

namespace Spelling

/-- Words as one segment. -/
def segment : Spelling → List (List Char) → List Char
  | camelCase, [] => []
  | camelCase, w :: ws => w ++ ws.flatMap withCapital
  | snakeCase, ws => Text.joinWith ['_'] ws
  | kebabCase, ws => Text.joinWith ['-'] ws

/-- How a word follows others. -/
def following : Spelling → List Char → List Char
  | camelCase => withCapital
  | snakeCase => ('_' :: ·)
  | kebabCase => ('-' :: ·)

/-- What is left of a word that follows others, once there is a space before it. -/
def spacedWord : Spelling → List Char → List Char
  | camelCase => withCapital
  | snakeCase | kebabCase => id

theorem segment_cons (a : Spelling) (w : List Char) (ws : List (List Char)) :
    a.segment (w :: ws) = w ++ ws.flatMap a.following := by
  cases a with
  | camelCase => rfl
  | snakeCase | kebabCase => exact Text.joinWith_cons_eq_flatMap _ w ws

theorem segment_nil (a : Spelling) : a.segment [] = [] := by cases a <;> rfl

theorem segment_singleton (a : Spelling) (w : List Char) : a.segment [w] = w := by
  rw [segment_cons]
  exact List.append_nil w

end Spelling

/-! ### Letters and digits -/

section Characters

variable {c : Char} {P : Char → Prop}

theorem of_isLetter (h : ∀ i ∈ List.range 26, P (Char.ofNat (97 + i)))
    (hc : Domain.isLetter c = true) : P c := by
  rw [Domain.isLetter, Bool.and_eq_true, decide_eq_true_eq, decide_eq_true_eq] at hc
  have hlow : 97 ≤ c.toNat := UInt32.le_iff_toNat_le.mp hc.1
  have hhigh : c.toNat ≤ 122 := UInt32.le_iff_toNat_le.mp hc.2
  have hc := h (c.toNat - 97) (List.mem_range.mpr (by omega))
  rwa [Nat.add_sub_cancel' hlow, Char.ofNat_toNat] at hc

theorem of_isLetterOrDigit (hletters : ∀ i ∈ List.range 26, P (Char.ofNat (97 + i)))
    (hdigits : ∀ i ∈ List.range 10, P (Char.ofNat (48 + i)))
    (hc : Domain.isLetterOrDigit c = true) : P c := by
  rw [Domain.isLetterOrDigit, Bool.or_eq_true] at hc
  rcases hc with hc | hc
  · exact of_isLetter hletters hc
  · rw [Bool.and_eq_true, decide_eq_true_eq, decide_eq_true_eq] at hc
    have hlow : 48 ≤ c.toNat := UInt32.le_iff_toNat_le.mp hc.1
    have hhigh : c.toNat ≤ 57 := UInt32.le_iff_toNat_le.mp hc.2
    have hc := hdigits (c.toNat - 48) (List.mem_range.mpr (by omega))
    rwa [Nat.add_sub_cancel' hlow, Char.ofNat_toNat] at hc

/-- A letter or digit separates nothing. -/
theorem plain_facts (hc : Domain.isLetterOrDigit c = true) :
    ¬ (c = '_' ∨ c = '-') ∧ ¬ ('A' ≤ c ∧ c ≤ 'Z') ∧ Text.isBlank c = false ∧ c ≠ '.' :=
  of_isLetterOrDigit (P := fun c => ¬ (c = '_' ∨ c = '-') ∧ ¬ ('A' ≤ c ∧ c ≤ 'Z') ∧
    Text.isBlank c = false ∧ c ≠ '.') (by decide) (by decide) hc

/-- The capital of a letter opens a word, and has that letter for its lower case. -/
theorem toUpper_facts (hc : Domain.isLetter c = true) :
    (¬ (c.toUpper = '_' ∨ c.toUpper = '-') ∧ ('A' ≤ c.toUpper ∧ c.toUpper ≤ 'Z') ∧
      Domain.isLetterOrDigit c.toUpper = false) ∧
    (Text.isBlank c.toUpper = false ∧ c.toUpper ≠ '.') ∧ c.toUpper.toLower = c.toLower :=
  of_isLetter (P := fun c => (¬ (c.toUpper = '_' ∨ c.toUpper = '-') ∧
    ('A' ≤ c.toUpper ∧ c.toUpper ≤ 'Z') ∧ Domain.isLetterOrDigit c.toUpper = false) ∧
    (Text.isBlank c.toUpper = false ∧ c.toUpper ≠ '.') ∧ c.toUpper.toLower = c.toLower)
    (by decide) hc

end Characters

variable {w : List Char} {ws : List (List Char)}

theorem IsPlainWord.exists_cons (h : IsPlainWord w) :
    ∃ c d cs, w = c :: d :: cs ∧ Domain.isLetter c = true ∧
      ∀ e ∈ d :: cs, Domain.isLetterOrDigit e = true := by
  obtain ⟨htwo, hhead, hplain⟩ := h
  rcases w with - | ⟨c, - | ⟨d, cs⟩⟩
  · exact absurd htwo (by decide)
  · exact absurd htwo (by simp)
  · exact ⟨c, d, cs, rfl, hhead c rfl, fun e he => hplain e (List.mem_cons_of_mem c he)⟩

theorem IsPlainWord.ne_nil (h : IsPlainWord w) : w ≠ [] := by
  obtain ⟨c, d, cs, rfl, -⟩ := h.exists_cons
  exact List.cons_ne_nil _ _

/-! ### Spaces between words -/

theorem spaced_word (hne : w ≠ []) (hw : ∀ c ∈ w, Domain.isLetterOrDigit c = true) (small : Bool)
    (rest : List Char) : spaced small (w ++ rest) = w ++ spaced true rest := by
  induction w generalizing small with
  | nil => exact absurd rfl hne
  | cons c w ih =>
      obtain ⟨hc, hw⟩ := List.forall_mem_cons.mp hw
      obtain ⟨hseparator, hcapital, -, -⟩ := plain_facts hc
      have hstays : spaced small (c :: (w ++ rest)) = c :: spaced true (w ++ rest) := by
        rw [spaced, if_neg hseparator, hc, if_neg]
        simpa [and_assoc] using fun _ => not_and.mp hcapital
      rw [List.cons_append, hstays]
      cases w with
      | nil => rfl
      | cons d w =>
          rw [ih (List.cons_ne_nil d w) hw]
          rfl

theorem spaced_following (a : Spelling) (h : IsPlainWord w) (rest : List Char) :
    spaced true (a.following w ++ rest) = ' ' :: (a.spacedWord w ++ spaced true rest) := by
  have hword := spaced_word h.ne_nil h.plain false rest
  cases a with
  | snakeCase | kebabCase => exact congrArg (' ' :: ·) hword
  | camelCase =>
      obtain ⟨c, d, cs, rfl, hletter, hplain⟩ := h.exists_cons
      obtain ⟨⟨hseparator, hcapital, hother⟩, -⟩ := toUpper_facts hletter
      have htail := spaced_word (List.cons_ne_nil d cs) hplain false rest
      show spaced true (c.toUpper :: (d :: cs ++ rest)) = _
      rw [spaced, if_neg hseparator, hother, if_pos (by simpa using hcapital), htail]
      rfl

theorem spaced_flatMap (a : Spelling) (h : ∀ w ∈ ws, IsPlainWord w) :
    spaced true (ws.flatMap a.following) = ws.flatMap fun w => ' ' :: a.spacedWord w := by
  induction ws with
  | nil => rfl
  | cons w ws ih =>
      obtain ⟨hw, hws⟩ := List.forall_mem_cons.mp h
      rw [List.flatMap_cons, spaced_following a hw, ih hws, List.flatMap_cons, List.cons_append]

theorem spacedWord_facts (a : Spelling) (h : IsPlainWord w) :
    a.spacedWord w ≠ [] ∧ ∀ c ∈ a.spacedWord w, Text.isBlank c = false := by
  have hblank : ∀ c ∈ w, Text.isBlank c = false := fun c hc => (plain_facts (h.plain c hc)).2.2.1
  cases a with
  | snakeCase | kebabCase => exact ⟨h.ne_nil, hblank⟩
  | camelCase =>
      obtain ⟨c, d, cs, rfl, hletter, -⟩ := h.exists_cons
      refine ⟨List.cons_ne_nil _ _, List.forall_mem_cons.mpr ⟨?_, ?_⟩⟩
      · exact (toUpper_facts hletter).2.1.1
      · exact (List.forall_mem_cons.mp hblank).2

/-- However words are put together, they are found again. -/
theorem words_spaced_segment (a : Spelling) (hw : IsPlainWord w) (hws : ∀ v ∈ ws, IsPlainWord v) :
    Text.words (spaced false (a.segment (w :: ws))) = w :: ws.map a.spacedWord := by
  have hblank : ∀ c ∈ w, Text.isBlank c = false := fun c hc => (plain_facts (hw.plain c hc)).2.2.1
  rw [a.segment_cons, spaced_word hw.ne_nil hw.plain, spaced_flatMap a hws]
  exact Text.words_append_flatMap a.spacedWord ⟨hw.ne_nil, hblank⟩ fun v hv =>
    spacedWord_facts a (hws v hv)

/-- The case of a word does not show in a reason. -/
theorem reasonWord_spacedWord (a : Spelling) (h : IsPlainWord w) :
    reasonWord (a.spacedWord w) = reasonWord w := by
  cases a with
  | snakeCase | kebabCase => rfl
  | camelCase =>
      obtain ⟨c, d, cs, rfl, hletter, -⟩ := h.exists_cons
      have hlower : Text.lower (c.toUpper :: d :: cs) = Text.lower (c :: d :: cs) := by
        refine Text.lower_eq_of_map_toLower ?_
        rw [List.map_cons, (toUpper_facts hletter).2.2, ← List.map_cons]
      show reasonWord (c.toUpper :: d :: cs) = _
      rw [reasonWord, reasonWord, hlower]

theorem reasonWords_segment (a : Spelling) (hw : IsPlainWord w) (hws : ∀ v ∈ ws, IsPlainWord v) :
    (Text.words (spaced false (a.segment (w :: ws)))).map reasonWord =
      (w :: ws).map reasonWord := by
  rw [words_spaced_segment a hw hws, List.map_cons, List.map_cons, List.map_map]
  refine congrArg _ (List.map_congr_left fun v hv => ?_)
  exact reasonWord_spacedWord a (hws v hv)

theorem segmentsWords_singleton {s : List Char} (hfields : s ≠ "fields".toList) (hs : s ≠ []) :
    segmentsWords [s] = (Text.words (spaced false s)).map reasonWord := by
  have hkept : decide (s ≠ "fields".toList ∧ s ≠ []) = true := decide_eq_true ⟨hfields, hs⟩
  rw [segmentsWords, List.filter_cons, if_pos hkept, List.filter_nil, List.flatMap_singleton]

/-- Two words or more are all in the reason, however they are written. -/
theorem segmentsWords_segment (a : Spelling) {v : List Char} (hw : IsPlainWord w)
    (hws : ∀ u ∈ v :: ws, IsPlainWord u) :
    segmentsWords [a.segment (w :: v :: ws)] = (w :: v :: ws).map reasonWord := by
  have hwords := words_spaced_segment a hw hws
  rw [← reasonWords_segment a hw hws]
  refine segmentsWords_singleton ?_ ?_
  · -- the mapping of fields is one word
    intro hfields
    have hone : Text.words (spaced false "fields".toList) = ["fields".toList] := by decide
    rw [hfields, hone] at hwords
    exact absurd (congrArg List.length hwords) (by simp)
  · rw [a.segment_cons]
    exact List.append_ne_nil_of_left_ne_nil hw.ne_nil _

/-- One word is written in one way. -/
theorem Spelling.segment_eq_of_short (a b : Spelling) (h : ws.length ≤ 1) :
    a.segment ws = b.segment ws := by
  rcases ws with - | ⟨w, - | ⟨v, ws⟩⟩
  · rw [segment_nil, segment_nil]
  · rw [segment_singleton, segment_singleton]
  · exact absurd h (by simp)

/-! ## The laws -/

/-- The text of a path is told by its segments. -/
theorem toList_eq_of_segments {path path' : String}
    (h : Value.segments path = Value.segments path') : path.toList = path'.toList := by
  rw [← Text.joinWith_splitOn '.' path.toList, ← Text.joinWith_splitOn '.' path'.toList]
  exact congrArg _ h

/-- Paths that differ in the spelling of one segment have one reason. -/
theorem weightReason_eq_of_spelling (h : ∀ w ∈ ws, IsPlainWord w) (a b : Spelling)
    {before after : List (List Char)} {path path' : String}
    (hpath : Value.segments path = before ++ a.segment ws :: after)
    (hpath' : Value.segments path' = before ++ b.segment ws :: after) :
    weightReason path = weightReason path' := by
  rcases Nat.lt_or_ge 1 ws.length with hlong | hshort
  · rcases ws with - | ⟨w, - | ⟨v, ws⟩⟩
    · exact absurd hlong (by decide)
    · exact absurd hlong (by simp)
    · obtain ⟨hw, hws⟩ := List.forall_mem_cons.mp h
      have hwords : ∀ c : Spelling, segmentsWords (before ++ c.segment (w :: v :: ws) :: after) =
          segmentsWords before ++ ((w :: v :: ws).map reasonWord ++ segmentsWords after) := by
        intro c
        rw [← List.singleton_append, segmentsWords_append, segmentsWords_append,
          segmentsWords_segment c hw hws]
      have hsame : pathWords path = pathWords path' := by
        rw [pathWords_eq, pathWords_eq, hpath, hpath', hwords a, hwords b]
      have hne : pathWords path ≠ [] := by
        rw [pathWords_eq, hpath, hwords a]
        simp
      rw [weightReason_of_words hne, weightReason_of_words (hsame ▸ hne), hsame]
  · rw [a.segment_eq_of_short b hshort, ← hpath'] at hpath
    rw [String.toList_inj.mp (toList_eq_of_segments hpath)]

theorem dot_notMem_segment (a : Spelling) (h : ∀ w ∈ ws, IsPlainWord w) : '.' ∉ a.segment ws := by
  have hplain : ∀ w : List Char, (∀ c ∈ w, Domain.isLetterOrDigit c = true) → '.' ∉ w :=
    fun w hw hmem => (plain_facts (hw '.' hmem)).2.2.2 rfl
  have hfollowing : ∀ w, IsPlainWord w → '.' ∉ a.following w := by
    intro w hw hmem
    cases a with
    | snakeCase | kebabCase => exact hplain w hw.plain (by simpa [Spelling.following] using hmem)
    | camelCase =>
        obtain ⟨c, d, cs, rfl, hletter, htail⟩ := hw.exists_cons
        rcases List.mem_cons.mp hmem with heq | hmem
        · exact (toUpper_facts hletter).2.1.2 heq.symm
        · exact hplain _ htail hmem
  cases ws with
  | nil =>
      rw [a.segment_nil]
      exact List.not_mem_nil
  | cons w ws =>
      obtain ⟨hw, hws⟩ := List.forall_mem_cons.mp h
      rw [a.segment_cons, List.mem_append, List.mem_flatMap]
      rintro (hmem | ⟨v, hv, hmem⟩)
      · exact hplain w hw.plain hmem
      · exact hfollowing v (hws v hv) hmem

/-- Words that are a path by themselves are what its reason is made of. -/
theorem weightReason_segment (a : Spelling) (h : ∀ w ∈ ws, IsPlainWord w) :
    weightReason (String.ofList (a.segment ws)) =
      titled (Text.joinWith [' '] (ws.map reasonWord)) := by
  have hsegments : Value.segments (String.ofList (a.segment ws)) = [a.segment ws] := by
    rw [Value.segments, String.toList_ofList, Text.splitOn_of_notMem (dot_notMem_segment a h)]
  have hwords : segmentsWords [a.segment ws] = ws.map reasonWord → ws ≠ [] →
      weightReason (String.ofList (a.segment ws)) =
        titled (Text.joinWith [' '] (ws.map reasonWord)) := by
    intro hwords hne
    rw [← hsegments, ← pathWords_eq] at hwords
    rw [weightReason_of_words (by rw [hwords]; simpa using hne), hwords]
  rcases ws with - | ⟨w, - | ⟨v, ws⟩⟩
  · rw [a.segment_nil]
    decide
  · obtain ⟨hw, hnone⟩ := List.forall_mem_cons.mp h
    by_cases hfields : w = "fields".toList
    · rw [a.segment_singleton, hfields]
      decide
    · refine hwords ?_ (List.cons_ne_nil _ _)
      rw [← reasonWords_segment a hw hnone, a.segment_singleton]
      exact segmentsWords_singleton hfields hw.ne_nil
  · obtain ⟨hw, hws⟩ := List.forall_mem_cons.mp h
    exact hwords (segmentsWords_segment a hw hws) (List.cons_ne_nil _ _)

/-- Every path but the empty one has a reason that says it is one of a weight.  If the path has
words at all, the mapping of fields in front of it and empty segments anywhere in it make no
difference.  Words of at least two small letters or digits that begin with a letter may be written
as one segment in any of three ways, by themselves, where the reason consists of them, or in a
longer path. -/
theorem weightReason_laws :
    (∀ path, (∃ text, weightReason path = .ok (text ++ " weight")) ↔ path ≠ "") ∧
    (∀ path, pathWords path ≠ [] → weightReason ("fields." ++ path) = weightReason path ∧
      ∀ longer, AddsEmpty (Value.segments path) (Value.segments longer) →
        weightReason longer = weightReason path) ∧
    ∀ ws, (∀ w ∈ ws, IsPlainWord w) →
      (∀ a : Spelling, weightReason (String.ofList (a.segment ws)) =
        titled (Text.joinWith [' '] (ws.map reasonWord))) ∧
      ∀ (a b : Spelling) (before after : List (List Char)) (path path' : String),
        Value.segments path = before ++ a.segment ws :: after →
        Value.segments path' = before ++ b.segment ws :: after →
        weightReason path = weightReason path' := by
  refine ⟨fun path => ⟨?_, fun hne => ?_⟩, fun path hwords => ⟨?_, fun longer hlonger => ?_⟩,
    fun ws h => ⟨fun a => weightReason_segment a h, ?_⟩⟩
  · rintro ⟨text, htext⟩ rfl
    have hempty : weightReason "" = .error .emptyText := by decide
    cases htext.symm.trans hempty
  · obtain ⟨text, htext⟩ := exists_weightReason hne
    rw [weightReason_eq] at htext ⊢
    refine exists_titled fun hnil => ?_
    rw [hnil] at htext
    cases htext
  · have hsame := pathWords_fields path
    rw [weightReason_of_words (hsame ▸ hwords), weightReason_of_words hwords, hsame]
  · have hsame : pathWords longer = pathWords path := hlonger.segmentsWords_eq
    rw [weightReason_of_words (hsame ▸ hwords), weightReason_of_words hwords, hsame]
  · intro a b before after path path' hpath hpath'
    exact weightReason_eq_of_spelling h a b hpath hpath'

/-- The same two words in three spellings, behind the mapping of fields and next to an empty
segment. -/
theorem weightReason_laws_leadId :
    weightReason "fields..crm.leadId" = .ok "CRM lead ID weight" ∧
      weightReason "crm.lead_id" = .ok "CRM lead ID weight" ∧
      weightReason "crm.lead-id" = .ok "CRM lead ID weight" := by
  obtain ⟨-, hsegments, hspelling⟩ := weightReason_laws
  have hplain : ∀ w ∈ ["lead".toList, "id".toList], IsPlainWord w := by
    simp only [List.forall_mem_cons]
    refine ⟨⟨by decide, ?_, List.all_eq_true.mp rfl⟩, ⟨by decide, ?_, List.all_eq_true.mp rfl⟩,
      List.forall_mem_nil _⟩
    · rintro _ ⟨⟩
      rfl
    · rintro _ ⟨⟩
      rfl
  have hreason : weightReason "crm.leadId" = .ok "CRM lead ID weight" := by decide
  obtain ⟨-, hspelling⟩ := hspelling _ hplain
  obtain ⟨hfields, -⟩ := hsegments ".crm.leadId" (by decide)
  obtain ⟨-, hempty⟩ := hsegments "crm.leadId" (by decide)
  refine ⟨?_, ?_, ?_⟩
  · exact (hfields.trans (hempty ".crm.leadId" (.insert (.keep _ (.keep _ .nil))))).trans hreason
  · exact (hspelling .snakeCase .camelCase ["crm".toList] [] _ "crm.leadId" rfl rfl).trans hreason
  · exact (hspelling .kebabCase .camelCase ["crm".toList] [] _ "crm.leadId" rfl rfl).trans hreason

end Qualify
