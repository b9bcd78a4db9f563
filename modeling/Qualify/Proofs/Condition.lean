import Qualify.Condition
import Qualify.Proofs.Check
import Qualify.Proofs.Pattern.Fault
import Qualify.Proofs.Value.Same
import Qualify.Proofs.Value.Text

/-!
# Which comparisons come to an end

Between plain data and the comparand of an accepted condition every comparison holds or does not,
unless it has to write out an integer of too many digits or has a pattern that asks for too much
(`Condition.exists_comparison_iff`).  A pattern that is not well-formed is met by nothing, but a
count past the largest one is well-formed, and a comparison with it fails
(`Condition.comparison_largeCount_fails`).
-/

namespace Qualify

open Pattern (Fault Token)

namespace Comparison

variable {cells : Cells} {actual expected : Value} {f : Failure}

/-- Is the value one in whose text a pattern is looked for? -/
def isSubject : Value → Bool
  | .null | .map _ | .list _ | .tuple _ => false
  | _ => true

/-- What stops a comparison of a value with a comparand: a text that has to be written for it, or a
pattern that has to be read. -/
inductive Stops : Comparison → Value → Value → Failure → Prop
  | contains {s : String} {expected : Value} :
      expected.HoldsLongInteger → Stops .contains (.text s) expected .longInteger
  | notContains {s : String} {expected : Value} :
      expected.HoldsLongInteger → Stops .notContains (.text s) expected .longInteger
  | subject {actual : Value} {pattern : String} : isSubject actual = true →
      actual.HoldsLongInteger → Stops .regex actual (.text pattern) .longInteger
  | pattern {actual : Value} {pattern : String} {f : Failure} : isSubject actual = true →
      ¬ actual.HoldsLongInteger → Pattern.ofText pattern = .error f →
      Stops .regex actual (.text pattern) f

/-! ## Equality and order -/

theorem exists_areEqual (hactual : actual.IsPlain) (hexpected : expected.IsPlain)
    (cells : Cells) : ∃ b, areEqual cells actual expected = .ok b := by
  unfold areEqual
  split
  · exact ⟨false, rfl⟩
  · exact hactual.exists_same hexpected cells

theorem exists_anyHolds {test : Value → Except Failure Bool} {xs : List Value}
    (h : ∀ x ∈ xs, ∃ b, test x = .ok b) : ∃ b, anyHolds test xs = .ok b := by
  induction xs with
  | nil => exact ⟨false, rfl⟩
  | cons x xs ih =>
      rw [List.forall_mem_cons] at h
      obtain ⟨b, hb⟩ := h.1
      rw [anyHolds, hb, Except.ok_bind]
      cases b with
      | true => exact ⟨true, rfl⟩
      | false => exact ih h.2

/-- Only among decimals is a number refused. -/
theorem exists_isOrdered (hactual : actual.IsPlain) (hexpected : expected.IsPlain)
    (orders : List Ordering) : ∃ b, isOrdered orders actual expected = .ok b := by
  have hdecimals : (actual.isDecimal || expected.isDecimal) = false := by
    cases hactual with
    | _ =>
        cases hexpected with
        | _ => rfl
  have horder : ∃ o, order? actual expected = .ok o := by
    unfold order?
    rw [hdecimals, Bool.false_and]
    dsimp only
    split
    · exact ⟨none, rfl⟩
    · exact ⟨_, rfl⟩
  obtain ⟨o, ho⟩ := horder
  exact ⟨o.any orders.contains, by rw [isOrdered, ho]; rfl⟩

/-! ## Membership -/

theorem isPlain_of_mem_members (h : expected.IsPlain) :
    ∀ x ∈ expected.members?.getD [], x.IsPlain := by
  cases h with
  | list hxs => exact hxs
  | _ => exact List.forall_mem_nil _

theorem exists_isAmong (hactual : actual.IsPlain) (hexpected : expected.IsPlain)
    (cells : Cells) : ∃ b, isAmong cells actual expected = .ok b :=
  exists_anyHolds fun x hx =>
    exists_areEqual hactual (isPlain_of_mem_members hexpected x hx) cells

/-- Only in a text is the text of a comparand looked for. -/
theorem containsValue_eq_error_iff (hactual : actual.IsPlain) (hexpected : expected.IsPlain) :
    containsValue cells actual expected = .error f ↔
      (∃ s, actual = .text s) ∧ f = .longInteger ∧ expected.HoldsLongInteger := by
  cases hactual with
  | text s =>
      have hnull : ¬ Value.null.HoldsLongInteger :=
        Value.exists_toText_iff.mp ⟨"None", rfl⟩
      cases hexpected with
      | null => simp [containsValue, Value.isNull, hnull]
      | _ =>
          simp only [containsValue, Value.isNull, Bool.false_eq_true, if_false,
            Except.bind_eq_error_iff, Except.pure_ne_error, and_false, exists_false, or_false,
            Value.toText_eq_error_iff, Value.text.injEq, exists_eq', true_and]
  | list hxs =>
      obtain ⟨b, hb⟩ := exists_anyHolds fun x hx => exists_areEqual (hxs x hx) hexpected cells
      simp [containsValue, hb]
  | _ => simp [containsValue]

/-! ## Patterns -/

theorem matchesPattern_of_not_isSubject (h : isSubject actual = false) :
    matchesPattern actual expected = .ok false := by
  cases expected with
  | text pattern =>
      cases actual with
      | null | map es | list xs | tuple xs => rfl
      | _ => cases h
  | _ => cases actual <;> rfl

theorem matchesPattern_of_isSubject (h : isSubject actual = true) (pattern : String) :
    matchesPattern actual (.text pattern) = actual.toText >>= fun subject =>
      Pattern.ofText pattern >>= fun p? => .ok (p?.any fun p => p.occursIn subject) := by
  cases actual with
  | null | map es | list xs | tuple xs => cases h
  | _ =>
      refine bind_congr fun subject => bind_congr fun p? => ?_
      cases p? with
      | none => rfl
      | some p => rfl

theorem matchesPattern_of_unusable {pattern : String} (hpattern : Pattern.ofText pattern = .ok none)
    (hshort : ¬ actual.HoldsLongInteger) : matchesPattern actual (.text pattern) = .ok false := by
  cases hsubject : isSubject actual with
  | false => exact matchesPattern_of_not_isSubject hsubject
  | true =>
      obtain ⟨subject, hwritten⟩ := Value.exists_toText_iff.mpr hshort
      rw [matchesPattern_of_isSubject hsubject, hwritten, hpattern]
      rfl

/-- A search for a pattern stops at its subject or, once that is written, at the pattern. -/
theorem matchesPattern_eq_error_iff :
    matchesPattern actual expected = .error f ↔ Stops .regex actual expected f := by
  cases hsubject : isSubject actual with
  | false =>
      rw [matchesPattern_of_not_isSubject hsubject]
      refine iff_of_false nofun fun h => ?_
      cases h with
      | subject h' | pattern h' => exact Bool.false_ne_true (hsubject.symm.trans h')
  | true =>
      cases expected with
      | text pattern =>
          rw [matchesPattern_of_isSubject hsubject, Except.bind_eq_error_iff,
            Value.toText_eq_error_iff]
          constructor
          · rintro (⟨rfl, hlong⟩ | ⟨subject, hwritten, h⟩)
            · exact .subject hsubject hlong
            · have hshort : ¬ actual.HoldsLongInteger :=
                Value.exists_toText_iff.mp ⟨subject, hwritten⟩
              rcases Except.bind_eq_error_iff.mp h with h | ⟨p?, -, h⟩
              · exact .pattern hsubject hshort h
              · cases h
          · intro h
            cases h with
            | subject _ hlong => exact .inl ⟨rfl, hlong⟩
            | pattern _ hshort hpattern =>
                obtain ⟨subject, hwritten⟩ := Value.exists_toText_iff.mpr hshort
                refine .inr ⟨subject, hwritten, ?_⟩
                rw [hpattern]
                rfl
      | _ => exact iff_of_false nofun nofun

/-! ## Every comparison -/

theorem stops_contains_iff :
    Stops .contains actual expected f ↔
      (∃ s, actual = .text s) ∧ f = .longInteger ∧ expected.HoldsLongInteger := by
  constructor
  · intro h
    cases h with
    | contains hlong => exact ⟨⟨_, rfl⟩, rfl, hlong⟩
  · rintro ⟨⟨s, rfl⟩, rfl, hlong⟩
    exact .contains hlong

theorem stops_notContains_iff :
    Stops .notContains actual expected f ↔
      (∃ s, actual = .text s) ∧ f = .longInteger ∧ expected.HoldsLongInteger := by
  constructor
  · intro h
    cases h with
    | notContains hlong => exact ⟨⟨_, rfl⟩, rfl, hlong⟩
  · rintro ⟨⟨s, rfl⟩, rfl, hlong⟩
    exact .notContains hlong

/-- What can contain nothing is asked for nothing. -/
theorem notContains_eq_error_iff (hactual : actual.IsPlain) (hexpected : expected.IsPlain) :
    holds cells actual expected .notContains = .error f ↔
      containsValue cells actual expected = .error f := by
  rw [holds]
  split
  · simp only [Except.bind_eq_error_iff, Except.pure_ne_error, and_false, exists_false, or_false]
  · case isFalse hcontainer =>
      refine iff_of_false Except.pure_ne_error fun h => ?_
      obtain ⟨⟨s, rfl⟩, -⟩ := (containsValue_eq_error_iff hactual hexpected).mp h
      exact hcontainer rfl

/-- A comparison of plain data fails with what stops it. -/
theorem holds_eq_error_iff (hactual : actual.IsPlain) (hexpected : expected.IsPlain)
    (cells : Cells) (k : Comparison) :
    k.holds cells actual expected = .error f ↔ k.Stops actual expected f := by
  have hequal := exists_areEqual hactual hexpected cells
  have hamong := exists_isAmong hactual hexpected cells
  have hordered := exists_isOrdered hactual hexpected
  cases k with
  | equals =>
      obtain ⟨b, hb⟩ := hequal
      exact iff_of_false (by simp [holds, hb]) nofun
  | notEquals =>
      obtain ⟨b, hb⟩ := hequal
      exact iff_of_false (by simp [holds, hb]) nofun
  | greaterThan | lessThan | greaterEqual | lessEqual =>
      obtain ⟨b, hb⟩ := hordered _
      exact iff_of_false (fun h => nomatch hb.symm.trans h) nofun
  | contains => exact (containsValue_eq_error_iff hactual hexpected).trans stops_contains_iff.symm
  | notContains =>
      rw [notContains_eq_error_iff hactual hexpected, stops_notContains_iff]
      exact containsValue_eq_error_iff hactual hexpected
  | regex => exact matchesPattern_eq_error_iff
  | isIn =>
      obtain ⟨b, hb⟩ := hamong
      exact iff_of_false (by simp [holds, hb]) nofun
  | notIn =>
      obtain ⟨b, hb⟩ := hamong
      exact iff_of_false (by simp [holds, hb]) nofun
  | startsWith | endsWith | «exists» | notExists => exact iff_of_false nofun nofun

end Comparison

namespace Check

variable {es : Entries} {v : Value} {c : Condition}

/-- A field that may hold anything is read as it is. -/
theorem optional_valid_eq_valid_iff {key : String} {default w : Value} :
    optional [key] default .valid es = .valid w ↔ w = (Value.lookup key es).getD default := by
  rw [optional_singleton_eq_valid_iff]
  cases Value.lookup key es with
  | none => simp
  | some u => simp [eq_comm]

/-- A condition is accepted with any comparand, which has to be a collection where the comparison
needs one. -/
theorem condition_eq_valid_iff :
    condition v = .valid c ↔ ∃ es, v = .map es ∧
      required ["field"] nonemptyText es = .valid c.field ∧
      required ["op"] (choice Comparison.name Comparison.all) es = .valid c.comparison ∧
      c.comparand = (Value.lookup "value" es).getD .null ∧
      (c.comparison.needsCollection = true → c.comparand.members?.isSome = true) := by
  have hguard : ∀ (b : Bool) (p : Complaint) (d : Condition),
      (if b then Checked.refuse p else Checked.valid d) = .valid c ↔ b = false ∧ d = c := by
    intro b p d
    cases b with
    | false => simp
    | true => simp
  simp only [condition, Checked.andThen_eq_valid_iff, record_eq_valid_iff, Checked.seq_eq_valid_iff,
    Checked.fmap_eq_valid_iff, optional_valid_eq_valid_iff, hguard, Bool.and_eq_false_imp,
    Option.isNone_eq_false_iff]
  constructor
  · rintro ⟨es, rfl, _, ⟨_, ⟨_, ⟨field, hfield, rfl⟩, comparison, hcomparison, rfl⟩, _, rfl, rfl⟩,
      hneeds, rfl⟩
    exact ⟨es, rfl, hfield, hcomparison, rfl, hneeds⟩
  · rintro ⟨es, rfl, hfield, hcomparison, hcomparand, hneeds⟩
    exact ⟨es, rfl, c, ⟨_, ⟨_, ⟨_, hfield, rfl⟩, _, hcomparison, rfl⟩, _, hcomparand, rfl⟩, hneeds,
      rfl⟩

end Check

namespace Condition

variable {v actual : Value} {c : Condition}

theorem isPlain_comparand (hv : v.IsPlain) (hc : Check.condition v = .valid c) :
    c.comparand.IsPlain := by
  obtain ⟨es, rfl, -, -, hcomparand, -⟩ := Check.condition_eq_valid_iff.mp hc
  cases hv with
  | map hes =>
      rw [hcomparand]
      exact Value.isPlain_lookup_getD hes

/-- Between a value and the comparand of an accepted condition, both plain data, a comparison ends
in a truth value exactly when nothing stops it, and fails only with what does.  One with a pattern
that is not well-formed ends in no, and where a pattern is what stops it, that can be seen in the
pattern. -/
theorem exists_comparison_iff (hv : v.IsPlain) (hc : Check.condition v = .valid c)
    (hactual : actual.IsPlain) (cells : Cells) :
    (c.comparison.needsCollection = true → c.comparand.members?.isSome = true) ∧
    ((∃ b, c.comparison.holds cells actual c.comparand = .ok b) ↔
      ∀ f, ¬ c.comparison.Stops actual c.comparand f) ∧
    (∀ f, c.comparison.holds cells actual c.comparand = .error f →
      c.comparison.Stops actual c.comparand f) ∧
    (∀ pattern, c.comparison = .regex → c.comparand = .text pattern →
      Pattern.ofText pattern = .ok none → ¬ actual.HoldsLongInteger →
      c.comparison.holds cells actual c.comparand = .ok false) ∧
    ∀ pattern f, Pattern.ofText pattern = .error f →
      ∃ tokens, Token.ofChars pattern.toList = some tokens ∧ (Fault.failed f).ArisesIn tokens := by
  have hexpected := isPlain_comparand hv hc
  have herror : ∀ f, c.comparison.holds cells actual c.comparand = .error f ↔
      c.comparison.Stops actual c.comparand f :=
    fun _ => Comparison.holds_eq_error_iff hactual hexpected cells c.comparison
  obtain ⟨-, -, -, -, -, hcollection⟩ := Check.condition_eq_valid_iff.mp hc
  refine ⟨hcollection, ?_, fun f => (herror f).mp, ?_, fun _ _ => Pattern.ofText_eq_error⟩
  · constructor
    · rintro ⟨b, hb⟩ f hf
      exact nomatch hb.symm.trans ((herror f).mpr hf)
    · intro h
      cases hholds : c.comparison.holds cells actual c.comparand with
      | ok b => exact ⟨b, rfl⟩
      | error f => exact absurd ((herror f).mp hholds) (h f)
  · intro pattern hregex htext hpattern hshort
    rw [hregex, htext]
    exact Comparison.matchesPattern_of_unusable hpattern hshort

/-- The data of a condition on a name, with a pattern. -/
def namePattern (pattern : String) : Value :=
  .map [(.text "field", .text "fields.name"), (.text "op", .text "regex"),
    (.text "value", .text pattern)]

theorem isPlain_namePattern (pattern : String) : (namePattern pattern).IsPlain := by
  refine .map fun e he => ?_
  rcases List.mem_cons.mp he with rfl | he
  · exact .text _
  · rcases List.mem_cons.mp he with rfl | he
    · exact .text _
    · exact List.mem_singleton.mp he ▸ .text _

theorem condition_namePattern (pattern : String) :
    Check.condition (namePattern pattern) = .valid ⟨"fields.name", .regex, .text pattern⟩ := by
  rfl

theorem exists_comparison_smallCount :
    (namePattern "a\x7b2\x7d").IsPlain ∧
      Check.condition (namePattern "a\x7b2\x7d") =
        .valid ⟨"fields.name", .regex, .text "a\x7b2\x7d"⟩ ∧
      (Value.text "aa").IsPlain ∧
      ∃ b, Comparison.regex.holds [] (.text "aa") (.text "a\x7b2\x7d") = .ok b := by
  have hplain := isPlain_namePattern "a\x7b2\x7d"
  have hvalid := condition_namePattern "a\x7b2\x7d"
  have hread : (Pattern.ofText "a\x7b2\x7d").toOption.isSome = true := by decide +kernel
  refine ⟨hplain, hvalid, .text "aa",
    (exists_comparison_iff hplain hvalid (.text "aa") []).2.1.mpr fun f h => ?_⟩
  cases h with
  | subject _ hlong => exact Value.exists_toText_iff.mp ⟨"aa", rfl⟩ hlong
  | pattern _ _ hpattern =>
      rw [hpattern] at hread
      cases hread

/-- A condition whose pattern has a count past the largest one is accepted, and meeting it fails. -/
theorem comparison_largeCount_fails :
    Check.condition (namePattern "a\x7b4294967295\x7d") =
        .valid ⟨"fields.name", .regex, .text "a\x7b4294967295\x7d"⟩ ∧
      Comparison.regex.holds [] (.text "a") (.text "a\x7b4294967295\x7d") =
        .error .repetition :=
  ⟨condition_namePattern _, by decide +kernel⟩

end Condition

end Qualify
