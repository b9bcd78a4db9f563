import Qualify.Condition
import Qualify.Proofs.Value.Equality

/-!
# Laws of the comparisons

Three of the comparisons are others negated, and one more is where there is something to contain.
The rest ask one question in two ways: membership asks for equality with some member, a collection
contains what is a member of it, and numbers of all types stand on one line, where exactly one of
less, equal and greater holds (`Comparison.holds_laws`).  That a collection contains a value is
decided by comparing its members with the value, and membership by comparing the value with the
members, so the two agree because equality is symmetric.
-/

namespace Qualify

namespace Comparison

open Value (IsSame)

variable {cells : Cells} {a e : Value} {x y : Decimal} {xs : List Value} {b b' : Bool}

/-! ## Negations -/

theorem isContainer_iff :
    isContainer a = true ↔ (∃ s, a = .text s) ∨ ∃ xs, a.members? = some xs := by
  cases a with
  | _ => simp [isContainer, Value.members?]

/-- What a value does not contain is known where it can contain anything. -/
theorem notContains_eq (h : isContainer a = true) :
    notContains.holds cells a e = (!·) <$> contains.holds cells a e := by
  rw [holds.eq_def]
  exact if_pos h

theorem contains_eq_false (h : ¬ isContainer a = true) :
    contains.holds cells a e = .ok false ∧ notContains.holds cells a e = .ok false := by
  refine ⟨?_, if_neg h⟩
  cases a with
  | text | list | tuple | set | frozenSet => exact absurd rfl h
  | _ => rfl

/-! ## Equality -/

/-- Values that share nothing are equal if they are the same and both or neither truth values. -/
theorem areEqual_iff (ha : a.IsProper) :
    areEqual cells a e = .ok true ↔ a.isBool = e.isBool ∧ IsSame [] a e := by
  rw [areEqual, Value.deref_of_not_shared ha.distinct.not_shared, ← ha.isSame_iff cells, IsSame]
  split
  · case isTrue h => exact iff_of_false (by simp) fun hsame => bne_iff_ne.mp h hsame.1
  · case isFalse h => exact (and_iff_right (by simpa using h)).symm

theorem areEqual_symm (ha : a.IsProper) (he : e.IsProper) (h : areEqual cells a e = .ok true) :
    areEqual cells e a = .ok true := by
  obtain ⟨hbool, hsame⟩ := (areEqual_iff ha).mp h
  exact (areEqual_iff he).mpr ⟨hbool.symm, Value.isEquivalenceOn_isProper.symm ha he hsame⟩

/-! ## Members -/

/-- A search that ends has found an item exactly when there is one. -/
theorem anyHolds_eq_ok {test : Value → Except Failure Bool} (h : anyHolds test xs = .ok b) :
    b = true ↔ ∃ x ∈ xs, test x = .ok true := by
  induction xs with
  | nil =>
      cases h
      simp
  | cons x xs ih =>
      obtain ⟨r, hr, hrest⟩ := Except.bind_eq_ok_iff.mp h
      cases r with
      | true =>
          cases hrest
          exact iff_of_true rfl ⟨x, List.mem_cons_self, hr⟩
      | false =>
          rw [ih hrest]
          simp [hr]

theorem contains_eq (h : a.members? = some xs) :
    contains.holds cells a e = anyHolds (areEqual cells · e) xs := by
  cases a with
  | list | tuple | set | frozenSet =>
      cases h
      rfl
  | _ => cases h

theorem isIn_eq (h : e.members? = some xs) :
    isIn.holds cells a e = anyHolds (areEqual cells a) xs := by
  rw [holds, isAmong, h]
  rfl

theorem contains_eq_isIn (he : e.IsProper) (h : a.members? = some xs) (hxs : ∀ x ∈ xs, x.IsProper)
    (hcontains : contains.holds cells a e = .ok b) (hin : isIn.holds cells e a = .ok b') :
    b = b' := by
  rw [contains_eq h] at hcontains
  rw [isIn_eq h] at hin
  rw [Bool.eq_iff_iff, anyHolds_eq_ok hcontains, anyHolds_eq_ok hin]
  constructor
  · rintro ⟨x, hx, hequal⟩
    exact ⟨x, hx, areEqual_symm (hxs x hx) he hequal⟩
  · rintro ⟨x, hx, hequal⟩
    exact ⟨x, hx, areEqual_symm he (hxs x hx) hequal⟩

/-! ## Numbers -/

/-- The value is a number and no truth value, and has a place among the numbers. -/
structure IsPlaced (v : Value) (x : Decimal) : Prop where
  isNumber : v.isNumber
  number : v.number? = some x
  isNaN : x.isNaN = false

namespace IsPlaced

variable (ha : IsPlaced a x) (he : IsPlaced e y)
include ha he

theorem isOrdered_eq (orders : List Ordering) :
    isOrdered orders a e = .ok (orders.contains (compare x.place y.place)) := by
  simp [isOrdered, order?, ha.isNumber, he.isNumber, ha.number, he.number, ha.isNaN, he.isNaN,
    Decimal.cmp?_eq ha.isNaN he.isNaN]

theorem areEqual_eq (cells : Cells) :
    areEqual cells a e = .ok (compare x.place y.place == .eq) := by
  have hscalar : ∀ {v : Value}, v.isNumber → v.isBool = false ∧ cells.deref v = v := by
    intro v h
    cases v with
    | int | float | decimal => exact ⟨rfl, rfl⟩
    | _ => cases h
  obtain ⟨hbool, hderef⟩ := hscalar ha.isNumber
  have hsame : a.same cells e = Value.sameNumber x y := by
    have hnumber := he.isNumber
    cases e with
    | int | float | decimal =>
        rw [Value.same, hderef, ha.number, he.number]
        all_goals
          intros
          contradiction
    | _ => cases hnumber
  rw [areEqual, hderef, hbool, (hscalar he.isNumber).1, hsame, Value.sameNumber,
    Decimal.isSignaling_of_isNaN ha.isNaN, Decimal.isSignaling_of_isNaN he.isNaN,
    Decimal.cmp?_eq ha.isNaN he.isNaN]
  rfl

/-- Exactly one of less, equal and greater holds of two numbers, and it is the one their places
tell. -/
theorem trichotomy (cells : Cells) :
    ∃ lt eq gt : Bool,
      lessThan.holds cells a e = .ok lt ∧ equals.holds cells a e = .ok eq ∧
      greaterThan.holds cells a e = .ok gt ∧ greaterEqual.holds cells a e = .ok (!lt) ∧
      lessEqual.holds cells a e = .ok (!gt) ∧ [lt, eq, gt].count true = 1 ∧
      (lt = true ↔ x.place < y.place) ∧ (eq = true ↔ x.place = y.place) ∧
      (gt = true ↔ y.place < x.place) := by
  refine ⟨compare x.place y.place == .lt, compare x.place y.place == .eq,
    compare x.place y.place == .gt, ?_⟩
  simp only [holds, ha.isOrdered_eq he, ha.areEqual_eq he]
  rw [beq_iff_eq, beq_iff_eq, beq_iff_eq, compare_lt_iff_lt, compare_eq_iff_eq, compare_gt_iff_gt]
  cases compare x.place y.place with
  | _ => simp

end IsPlaced

theorem isOrdered_of_not_isNumber (h : ¬ (a.isNumber ∧ e.isNumber)) (orders : List Ordering) :
    isOrdered orders a e = .ok false := by
  have hnone : order? a e = .ok none := by
    rw [order?, if_pos]
    simpa [or_iff_not_imp_left] using h
  rw [isOrdered, hnone]
  rfl

/-! ## The laws -/

/-- The comparisons and their negations; what can contain and what is contained; membership by
equality, from either side; numbers on one line.  The negations hold of failures too: a negated
comparison fails as the other does.  Containment and membership agree on values as they are built,
with different keys and members, of which none is shared, as none is in a comparand. -/
theorem holds_laws (cells : Cells) (a e : Value) :
    (notEquals.holds cells a e = (!·) <$> equals.holds cells a e ∧
      notIn.holds cells a e = (!·) <$> isIn.holds cells a e ∧
      notExists.holds cells a e = (!·) <$> «exists».holds cells a e) ∧
    ((∃ s, a = .text s) ∨ (∃ xs, a.members? = some xs) →
      notContains.holds cells a e = (!·) <$> contains.holds cells a e) ∧
    (¬ ((∃ s, a = .text s) ∨ ∃ xs, a.members? = some xs) →
      contains.holds cells a e = .ok false ∧ notContains.holds cells a e = .ok false) ∧
    (∀ xs b, e.members? = some xs → isIn.holds cells a e = .ok b →
      (b = true ↔ ∃ x ∈ xs, equals.holds cells a x = .ok true)) ∧
    (∀ xs b b', a.members? = some xs → (∀ x ∈ xs, x.IsProper) → e.IsProper →
      contains.holds cells a e = .ok b → isIn.holds cells e a = .ok b' → b = b') ∧
    (¬ (a.isNumber ∧ e.isNumber) → ∀ k ∈ [greaterThan, lessThan, greaterEqual, lessEqual],
      k.holds cells a e = .ok false) ∧
    ∀ x y, IsPlaced a x → IsPlaced e y → ∃ lt eq gt : Bool,
      lessThan.holds cells a e = .ok lt ∧ equals.holds cells a e = .ok eq ∧
      greaterThan.holds cells a e = .ok gt ∧ greaterEqual.holds cells a e = .ok (!lt) ∧
      lessEqual.holds cells a e = .ok (!gt) ∧ [lt, eq, gt].count true = 1 ∧
      (lt = true ↔ x.place < y.place) ∧ (eq = true ↔ x.place = y.place) ∧
      (gt = true ↔ y.place < x.place) := by
  refine ⟨⟨rfl, rfl, rfl⟩, fun h => notContains_eq (isContainer_iff.mpr h),
    fun h => contains_eq_false (mt isContainer_iff.mp h), ?_, ?_, ?_, ?_⟩
  · intro xs b hxs hin
    rw [isIn_eq hxs] at hin
    exact anyHolds_eq_ok hin
  · intro xs b b' hxs hproper he hcontains hin
    exact contains_eq_isIn he hxs hproper hcontains hin
  · intro h k hk
    have hfalse := isOrdered_of_not_isNumber h
    simp only [List.mem_cons, List.not_mem_nil, or_false] at hk
    rcases hk with rfl | rfl | rfl | rfl <;> exact hfalse _
  · intro x y ha he
    exact ha.trichotomy he cells

/-- A decimal of one is in a list with a truth value and the number one, and the list contains it;
of an integer and a decimal exactly one comparison holds. -/
theorem holds_laws_mixedNumbers :
    (∃ b b', contains.holds [] (.list [.bool true, .int 1]) (.decimal (.finite false 10 (-1))) =
        .ok b ∧
      isIn.holds [] (.decimal (.finite false 10 (-1))) (.list [.bool true, .int 1]) = .ok b' ∧
      b = b') ∧
    ∃ lt eq gt : Bool, lessThan.holds [] (.int 3) (.decimal (.finite false 25 (-1))) = .ok lt ∧
      equals.holds [] (.int 3) (.decimal (.finite false 25 (-1))) = .ok eq ∧
      greaterThan.holds [] (.int 3) (.decimal (.finite false 25 (-1))) = .ok gt ∧
      [lt, eq, gt].count true = 1 := by
  have hmembers : ∀ x ∈ [Value.bool true, .int 1], x.IsProper := by
    intro x hx
    simp only [List.mem_cons, List.not_mem_nil, or_false] at hx
    rcases hx with rfl | rfl
    · exact .leaf trivial rfl
    · exact .leaf trivial rfl
  constructor
  · exact ⟨true, true, rfl, rfl, (holds_laws [] (.list [.bool true, .int 1])
      (.decimal (.finite false 10 (-1)))).2.2.2.2.1 _ _ _ rfl hmembers (.leaf trivial rfl) rfl rfl⟩
  · obtain ⟨lt, eq, gt, hlt, heq, hgt, -, -, hone, -⟩ :=
      (holds_laws [] (.int 3) (.decimal (.finite false 25 (-1)))).2.2.2.2.2.2 _ _
        ⟨rfl, rfl, rfl⟩ ⟨rfl, rfl, rfl⟩
    exact ⟨lt, eq, gt, hlt, heq, hgt, hone⟩

end Comparison

end Qualify
