import Qualify.Proofs.Condition.Algebra
import Qualify.Proofs.Value.Facing

/-!
# Truth values and numbers

Equality keeps truth values apart from numbers, but only where it begins: inside lists, tuples and
mappings truth values are equal to one and zero, as in all comparisons of values.  So a value is
equal only to values that keep the two apart in every place exactly if nothing inside it is worth a
truth value (`Comparison.keepsApart_iff`), and the same holds of membership and of containment in
collections.  The smallest list that has something of the kind inside is equal to a list of a number
(`Comparison.equals_mixes`).
-/

namespace Qualify

namespace Value

variable {a e u v : Value} {b : Bool}

/-- A truth value on either side faces the same truth value. -/
def KeepsApart (a e : Value) : Prop := ∀ u v, Facing a e u v → u.isBool ∨ v.isBool → u = v

/-- Nothing inside the value is a truth value or equal to one as a number. -/
def HasNoTruthInside (a : Value) : Prop := ∀ u, Inside u a → ∀ b, ¬ IsSame [] u (.bool b)

theorem KeepsApart.symm (h : KeepsApart a e) (ha : a.IsProper) (he : e.IsProper) :
    KeepsApart e a :=
  fun u v hfacing hbool => (h v u (hfacing.symm he ha) hbool.symm).symm

theorem exists_eq_bool (h : u.isBool) : ∃ b, u = .bool b := by
  cases u with
  | bool b => exact ⟨b, rfl⟩
  | _ => cases h

/-- Truth values are the same only if they are one. -/
theorem eq_of_isSame_bool {c : Bool} (h : IsSame [] (.bool b) (.bool c)) : b = c := by
  cases b with
  | false =>
      cases c with
      | false => rfl
      | true => cases h
  | true =>
      cases c with
      | false => cases h
      | true => rfl

/-- What is worth a truth value is the same as something of the other kind. -/
theorem exists_other_kind (h : IsSame [] u (.bool b)) :
    ∃ v, v.IsProper ∧ IsSame [] u v ∧ (u.isBool ∨ v.isBool) ∧ u ≠ v := by
  by_cases hu : u.isBool
  · obtain ⟨c, rfl⟩ := exists_eq_bool hu
    refine ⟨.int (if c then 1 else 0), .leaf trivial rfl, ?_, .inl rfl, nofun⟩
    cases c with
    | _ => rfl
  · exact ⟨.bool b, .leaf trivial rfl, h, .inr rfl, fun heq => hu (heq ▸ rfl)⟩

/-- Where nothing inside is worth a truth value, nothing inside faces one. -/
theorem HasNoTruthInside.keepsApart (h : HasNoTruthInside a) (ha : a.IsProper) (he : e.IsProper)
    (hbool : a.isBool = e.isBool) (hsame : IsSame [] a e) : KeepsApart a e := by
  intro u v hfacing huv
  obtain ⟨hu, -, huv'⟩ := hfacing.isSame ha he hsame
  rcases hfacing.eq_or_inside with ⟨rfl, rfl⟩ | hinside
  · have hboth : u.isBool ∧ v.isBool := by
      rw [hbool] at huv ⊢
      simpa using huv
    obtain ⟨b, rfl⟩ := exists_eq_bool hboth.1
    obtain ⟨c, rfl⟩ := exists_eq_bool hboth.2
    rw [eq_of_isSame_bool huv']
  · rcases huv with hleft | hright
    · obtain ⟨b, rfl⟩ := exists_eq_bool hleft
      refine absurd ?_ (h _ hinside b)
      cases b with
      | _ => rfl
    · obtain ⟨b, rfl⟩ := exists_eq_bool hright
      exact absurd huv' (h u hinside b)

end Value

namespace Comparison

open Value (Facing Inside IsSame KeepsApart HasNoTruthInside)

variable {cells : Cells} {a e : Value} {xs : List Value} {b : Bool}

/-- A value is equal only to what keeps truth values apart from its own if nothing inside it is
worth one, or if it equals nothing at all. -/
theorem forall_keepsApart_iff (ha : a.IsProper) :
    (∀ e, e.IsProper → areEqual cells a e = .ok true → KeepsApart a e) ↔
      (areEqual cells a a = .ok true → HasNoTruthInside a) := by
  constructor
  · intro h hself u hinside b hu
    -- In the place of `u` goes a value of the other kind that is worth the same.
    obtain ⟨v, hv, huv, hbool, hne⟩ := Value.exists_other_kind hu
    obtain ⟨e, he, hae, hkind, hfacing⟩ :=
      Value.exists_facing ha ((areEqual_iff ha).mp hself).2 hinside hv huv
    exact hne (h e he ((areEqual_iff ha).mpr ⟨hkind.symm, hae⟩) u v hfacing hbool)
  · intro h e he hequal
    obtain ⟨hkind, hsame⟩ := (areEqual_iff ha).mp hequal
    have hself : areEqual cells a a = .ok true :=
      (areEqual_iff ha).mpr ⟨rfl, ha.isSame_self he hsame⟩
    exact (h hself).keepsApart ha he hkind hsame

theorem anyHolds_singleton {test : Value → Except Failure Bool} {x : Value}
    (h : test x = .ok true) : anyHolds test [x] = .ok true := by
  rw [anyHolds, h]
  rfl

/-- Membership of a collection with one item is equality with that item. -/
theorem forall_isIn_iff (a : Value) (cells : Cells) :
    (∀ l xs, l.members? = some xs → (∀ x ∈ xs, x.IsProper) → isIn.holds cells a l = .ok true →
      ∃ x ∈ xs, areEqual cells a x = .ok true ∧ KeepsApart a x) ↔
    ∀ e, e.IsProper → areEqual cells a e = .ok true → KeepsApart a e := by
  constructor
  · intro h e he hequal
    have hin : isIn.holds cells a (.list [e]) = .ok true := by
      rw [isIn_eq rfl]
      exact anyHolds_singleton hequal
    obtain ⟨x, hx, -, hapart⟩ := h (.list [e]) [e] rfl (List.forall_mem_singleton.mpr he) hin
    exact List.mem_singleton.mp hx ▸ hapart
  · intro h l xs hxs hproper hin
    rw [isIn_eq hxs] at hin
    obtain ⟨x, hx, hequal⟩ := (anyHolds_eq_ok hin).mp rfl
    exact ⟨x, hx, hequal, h x (hproper x hx) hequal⟩

/-- A collection of one item contains what that item equals. -/
theorem forall_contains_iff (ha : a.IsProper) (cells : Cells) :
    (∀ l xs, l.members? = some xs → (∀ x ∈ xs, x.IsProper) → contains.holds cells l a = .ok true →
      ∃ x ∈ xs, areEqual cells x a = .ok true ∧ KeepsApart x a) ↔
    ∀ e, e.IsProper → areEqual cells a e = .ok true → KeepsApart a e := by
  constructor
  · intro h e he hequal
    have hcontains : contains.holds cells (.list [e]) a = .ok true := by
      rw [contains_eq rfl]
      exact anyHolds_singleton (areEqual_symm ha he hequal)
    obtain ⟨x, hx, -, hapart⟩ :=
      h (.list [e]) [e] rfl (List.forall_mem_singleton.mpr he) hcontains
    obtain rfl := List.mem_singleton.mp hx
    exact hapart.symm he ha
  · intro h l xs hxs hproper hcontains
    rw [contains_eq hxs] at hcontains
    obtain ⟨x, hx, hequal⟩ := (anyHolds_eq_ok hcontains).mp rfl
    exact ⟨x, hx, hequal,
      (h x (hproper x hx) (areEqual_symm (hproper x hx) ha hequal)).symm ha (hproper x hx)⟩

/-- Values that are equal are of one kind themselves, and in every place inside them the same, so
that a truth value there faces only what is equal to it as a number.  All values that a given one
equals keep truth values apart from its own exactly if nothing inside it is worth one, or if it
does not equal itself; and so do the members by which it is in a collection, and those by which it
is contained in one. -/
theorem keepsApart_iff (cells : Cells) (ha : a.IsProper) :
    (∀ e, e.IsProper → equals.holds cells a e = .ok true →
      a.isBool = e.isBool ∧ ∀ u v, Facing a e u v → IsSame [] u v) ∧
    ((∀ e, e.IsProper → equals.holds cells a e = .ok true → KeepsApart a e) ↔
      (equals.holds cells a a = .ok true → HasNoTruthInside a)) ∧
    ((∀ l xs, l.members? = some xs → (∀ x ∈ xs, x.IsProper) → isIn.holds cells a l = .ok true →
        ∃ x ∈ xs, equals.holds cells a x = .ok true ∧ KeepsApart a x) ↔
      (equals.holds cells a a = .ok true → HasNoTruthInside a)) ∧
    ((∀ l xs, l.members? = some xs → (∀ x ∈ xs, x.IsProper) → contains.holds cells l a = .ok true →
        ∃ x ∈ xs, equals.holds cells x a = .ok true ∧ KeepsApart x a) ↔
      (equals.holds cells a a = .ok true → HasNoTruthInside a)) := by
  refine ⟨fun e he hequal => ?_, forall_keepsApart_iff ha,
    (forall_isIn_iff a cells).trans (forall_keepsApart_iff ha),
    (forall_contains_iff ha cells).trans (forall_keepsApart_iff ha)⟩
  obtain ⟨hkind, hsame⟩ := (areEqual_iff ha).mp hequal
  exact ⟨hkind, fun u v hfacing => (hfacing.isSame ha he hsame).2.2⟩

/-- Nothing inside a list of the number two is worth a truth value, so whatever it equals keeps the
two apart. -/
theorem keepsApart_two :
    (Value.list [.int 2]).IsProper ∧
      ∀ e, e.IsProper → equals.holds [] (.list [.int 2]) e = .ok true →
        KeepsApart (.list [.int 2]) e := by
  have hproper : (Value.list [.int 2]).IsProper :=
    .intro trivial (List.forall_mem_singleton.mpr (.leaf trivial rfl))
  refine ⟨hproper, (keepsApart_iff [] hproper).2.1.mpr fun _ u hu b hsame => ?_⟩
  cases hu with
  | place hu =>
      obtain rfl := List.mem_singleton.mp hu
      cases b with
      | _ => cases hsame
  | deeper hb hu =>
      obtain rfl := List.mem_singleton.mp hb
      cases hu with
      | place hu | deeper hu _ => cases hu

/-- A list of a truth value is equal to a list of a number. -/
theorem equals_mixes :
    equals.holds [] (.list [.bool true]) (.list [.int 1]) = .ok true ∧
      Facing (.list [.bool true]) (.list [.int 1]) (.bool true) (.int 1) ∧
      ¬ KeepsApart (.list [.bool true]) (.list [.int 1]) := by
  have hfacing : Facing (.list [.bool true]) (.list [.int 1]) (.bool true) (.int 1) :=
    .inside (.item List.mem_cons_self) (.here _ _)
  exact ⟨rfl, hfacing, fun h => nomatch h _ _ hfacing (.inl rfl)⟩

end Comparison

end Qualify
