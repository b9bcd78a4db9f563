import Qualify.Proofs.Except
import Qualify.Proofs.Number.Order
import Qualify.Proofs.Value.Parts
import Qualify.Value.Same

/-!
# What makes two values the same

A comparison says yes in one of eight ways: of two numbers in one place, of two texts or other
scalars with the same data, of two collections, mappings or objects of one kind whose parts are the
same.  `Value.Matches` lists the ways, over any relation of the parts, and the comparison is that
relation tied to itself (`Value.isSame_iff_matches`).  It says nothing of comparisons that fail.
-/

namespace Qualify.Value

variable {R S : Value → Value → Prop} {cells : Cells} {a b v w : Value}
variable {x y : Decimal} {xs ys : List Value} {es fs : List (Value × Value)}

/-- The comparison of two values ends and says that they are equal. -/
def IsSame (cells : Cells) (a b : Value) : Prop := a.same cells b = .ok true

theorem toOption_same_iff :
    (a.same cells b).toOption.getD false = true ↔ IsSame cells a b := by
  unfold IsSame
  cases a.same cells b with
  | error f => simp [Except.toOption]
  | ok r => simp [Except.toOption]

theorem sameKey_iff : sameKey a b = true ↔ IsSame [] a b := toOption_same_iff

/-! ## Ways to be the same -/

/-- Is the value a scalar other than a number? -/
def isAtom : Value → Bool
  | .null | .text _ | .bytes _ | .date _ | .timestamp _ | .scorecard _ | .bands _ => true
  | _ => false

/-- The members of a set of either kind. -/
def setMembers? : Value → Option (List Value)
  | .set xs | .frozenSet xs => some xs
  | _ => none

theorem parts_of_setMembers? (h : v.setMembers? = some xs) : v.parts = xs := by
  cases v with
  | set | frozenSet => exact Option.some.inj h
  | _ => cases h

theorem mem_parts_of_setMembers? (h : v.setMembers? = some xs) (hw : w ∈ xs) : w ∈ v.parts :=
  parts_of_setMembers? h ▸ hw

/-- Two values match if they are alike outside and related in their parts. -/
inductive Matches (R : Value → Value → Prop) : Value → Value → Prop
  | number {a b : Value} {x y : Decimal} (ha : a.number? = some x) (hb : b.number? = some y)
      (h : x.cmp? y = some .eq) : Matches R a b
  | atom {a : Value} (h : a.isAtom) : Matches R a a
  | list {xs ys : List Value} (h : List.Forall₂ R xs ys) : Matches R (.list xs) (.list ys)
  | tuple {xs ys : List Value} (h : List.Forall₂ R xs ys) : Matches R (.tuple xs) (.tuple ys)
  | members {a b : Value} {xs ys : List Value} (ha : a.setMembers? = some xs)
      (hb : b.setMembers? = some ys) (hlength : xs.length = ys.length)
      (h : ∀ y ∈ ys, ∃ x ∈ xs, R x y) : Matches R a b
  | map {es fs : List (Value × Value)} (hlength : es.length = fs.length)
      (h : ∀ e ∈ es, ∃ f, (fs.find? fun f => sameKey e.1 f.1) = some f ∧ R e.2 f.2) :
      Matches R (.map es) (.map fs)
  | lead {email name company domain fields utm extra : Value}
      {email' name' company' domain' fields' utm' extra' : Value}
      (h : List.Forall₂ R [email, name, company, domain, fields, utm, extra]
        [email', name', company', domain', fields', utm', extra']) :
      Matches R (.lead email name company domain fields utm extra)
        (.lead email' name' company' domain' fields' utm' extra')
  | rule {id : String} {teamId : Option String} {kind : RuleKind} {enabled : Bool} {order : Int}
      {definition definition' : Value} (h : R definition definition') :
      Matches R (.rule id teamId kind enabled order definition)
        (.rule id teamId kind enabled order definition')

namespace Matches

theorem list_iff : Matches R a (.list ys) ↔ ∃ xs, a = .list xs ∧ List.Forall₂ R xs ys := by
  constructor
  · intro h
    cases h with
    | list h => exact ⟨_, rfl, h⟩
    | number _ hb | members _ hb | atom hb => cases hb
  · rintro ⟨xs, rfl, h⟩
    exact .list h

theorem tuple_iff : Matches R a (.tuple ys) ↔ ∃ xs, a = .tuple xs ∧ List.Forall₂ R xs ys := by
  constructor
  · intro h
    cases h with
    | tuple h => exact ⟨_, rfl, h⟩
    | number _ hb | members _ hb | atom hb => cases hb
  · rintro ⟨xs, rfl, h⟩
    exact .tuple h

theorem members_iff (hb : b.setMembers? = some ys) :
    Matches R a b ↔ ∃ xs, a.setMembers? = some xs ∧ xs.length = ys.length ∧
      ∀ y ∈ ys, ∃ x ∈ xs, R x y := by
  constructor
  · intro h
    cases b with
    | set zs | frozenSet zs =>
        cases h with
        | members ha hb' hlength h =>
            obtain rfl := Option.some.inj (hb'.symm.trans hb)
            exact ⟨_, ha, hlength, h⟩
        | number _ hb' | atom hb' => cases hb'
    | _ => cases hb
  · rintro ⟨xs, ha, hlength, h⟩
    exact .members ha hb hlength h

theorem map_iff : Matches R a (.map fs) ↔ ∃ es, a = .map es ∧ es.length = fs.length ∧
    ∀ e ∈ es, ∃ f, (fs.find? fun f => sameKey e.1 f.1) = some f ∧ R e.2 f.2 := by
  constructor
  · intro h
    cases h with
    | map hlength h => exact ⟨_, rfl, hlength, h⟩
    | number _ hb | members _ hb | atom hb => cases hb
  · rintro ⟨es, rfl, hlength, h⟩
    exact .map hlength h

theorem number_iff (hb : b.number? = some y) :
    Matches R a b ↔ ∃ x, a.number? = some x ∧ x.cmp? y = some .eq := by
  constructor
  · intro h
    cases b with
    | bool | int | float | decimal =>
        cases h with
        | number ha hb' h =>
            obtain rfl := Option.some.inj (hb'.symm.trans hb)
            exact ⟨_, ha, h⟩
        | members _ hb' | atom hb' => cases hb'
    | _ => cases hb
  · rintro ⟨x, ha, h⟩
    exact .number ha hb h

theorem atom_iff (hb : b.isAtom) : Matches R a b ↔ a = b := by
  constructor
  · intro h
    cases b with
    | null | text | bytes | date | timestamp | scorecard | bands =>
        cases h with
        | atom => rfl
        | number _ hb' | members _ hb' => cases hb'
    | _ => cases hb
  · rintro rfl
    exact .atom hb

theorem lead_iff {email name company domain fields utm extra : Value} :
    Matches R a (.lead email name company domain fields utm extra) ↔
      ∃ email' name' company' domain' fields' utm' extra',
        a = .lead email' name' company' domain' fields' utm' extra' ∧ R email' email ∧
          R name' name ∧ R company' company ∧ R domain' domain ∧ R fields' fields ∧
          R utm' utm ∧ R extra' extra := by
  constructor
  · intro h
    cases h with
    | lead h => simpa using h
    | number _ hb | members _ hb | atom hb => cases hb
  · rintro ⟨_, _, _, _, _, _, _, rfl, h⟩
    exact .lead (by simpa using h)

theorem rule_iff {id : String} {teamId : Option String} {kind : RuleKind} {enabled : Bool}
    {order : Int} :
    Matches R a (.rule id teamId kind enabled order b) ↔
      ∃ c, a = .rule id teamId kind enabled order c ∧ R c b := by
  constructor
  · intro h
    cases h with
    | rule h => exact ⟨_, rfl, h⟩
    | number _ hb | members _ hb | atom hb => cases hb
  · rintro ⟨c, rfl, h⟩
    exact .rule h

/-- Only the parts of the two values are looked at. -/
theorem mono (hRS : ∀ x ∈ a.parts, ∀ y ∈ b.parts, R x y → S x y) (h : Matches R a b) :
    Matches S a b := by
  have hitems : ∀ {xs ys : List Value}, (∀ x ∈ xs, ∀ y ∈ ys, R x y → S x y) →
      List.Forall₂ R xs ys → List.Forall₂ S xs ys := by
    intro xs ys hRS h
    rw [List.forall₂_iff_zip] at h ⊢
    exact ⟨h.1, fun hmem => hRS _ (List.of_mem_zip hmem).1 _ (List.of_mem_zip hmem).2 (h.2 hmem)⟩
  cases h with
  | number ha hb h => exact .number ha hb h
  | atom h => exact .atom h
  | list h => exact .list (hitems hRS h)
  | tuple h => exact .tuple (hitems hRS h)
  | lead h => exact .lead (hitems hRS h)
  | rule h => exact .rule (hRS _ (List.mem_singleton_self _) _ (List.mem_singleton_self _) h)
  | members ha hb hlength h =>
      refine .members ha hb hlength fun y hy => ?_
      obtain ⟨x, hx, hxy⟩ := h y hy
      exact ⟨x, hx, hRS x (mem_parts_of_setMembers? ha hx) y (mem_parts_of_setMembers? hb hy) hxy⟩
  | map hlength h =>
      refine .map hlength fun e he => ?_
      obtain ⟨f, hf, hef⟩ := h e he
      have hmem := List.mem_of_find?_eq_some hf
      exact ⟨f, hf, hRS _ (mem_parts_map.mpr ⟨e, he, .inr rfl⟩) _
        (mem_parts_map.mpr ⟨f, hmem, .inr rfl⟩) hef⟩

end Matches

/-! ## The comparison, stage by stage -/

theorem guard_eq_true_iff {p : Prop} [Decidable p] {r : Except Failure Bool} :
    (if p then r else .ok false) = .ok true ↔ p ∧ r = .ok true := by
  split
  · case isTrue h => exact (and_iff_right h).symm
  · case isFalse h => exact iff_of_false nofun fun hp => h hp.1

theorem sameItems_iff :
    xs.length = ys.length ∧ sameItems cells xs ys = .ok true ↔
      List.Forall₂ (IsSame cells) xs ys := by
  induction ys generalizing xs with
  | nil => cases xs <;> simp [sameItems]
  | cons y ys ih =>
      cases xs with
      | nil => simp
      | cons x xs =>
          rw [sameItems, List.forall₂_cons, ← ih, IsSame, Except.bind_eq_ok_iff]
          simp [and_left_comm]

theorem sameMembers_iff :
    sameMembers cells xs ys = .ok true ↔ ∀ y ∈ ys, ∃ x ∈ xs, IsSame cells x y := by
  induction ys with
  | nil => simp [sameMembers]
  | cons y ys ih =>
      rw [sameMembers, List.forall_mem_cons, ← ih]
      have hany : xs.any (fun x => (same cells x y).toOption.getD false) = true ↔
          ∃ x ∈ xs, IsSame cells x y := by
        simp only [List.any_eq_true, toOption_same_iff]
      split
      · case isTrue h => simp [hany.mp h]
      · case isFalse h => simp [mt hany.mpr h]

theorem sameEntry_iff :
    sameEntry cells a b fs = .ok true ↔
      ∃ f, (fs.find? fun f => sameKey a f.1) = some f ∧ IsSame cells b f.2 := by
  induction fs with
  | nil => simp [sameEntry]
  | cons f fs ih =>
      change (if sameKey a f.1 then b.same cells f.2 else sameEntry cells a b fs) = .ok true ↔ _
      rw [List.find?_cons]
      cases sameKey a f.1 with
      | true => simp [IsSame]
      | false => simpa using ih

theorem foldlM_sameEntry_iff :
    es.foldlM (fun ok e => if ok then sameEntry cells e.1 e.2 fs else .ok false) true = .ok true ↔
      ∀ e ∈ es, sameEntry cells e.1 e.2 fs = .ok true := by
  have hfalse : ∀ es : List (Value × Value),
      es.foldlM (fun ok e => if ok then sameEntry cells e.1 e.2 fs else .ok false) false =
        .ok false := by
    intro es
    induction es with
    | nil => rfl
    | cons e es ih =>
        rw [List.foldlM_cons]
        exact ih
  induction es with
  | nil => simp
  | cons e es ih =>
      rw [List.foldlM_cons, List.forall_mem_cons, if_pos rfl, Except.bind_eq_ok_iff]
      constructor
      · rintro ⟨r, hr, hrest⟩
        cases r with
        | true => exact ⟨hr, ih.mp hrest⟩
        | false => exact nomatch (hfalse es).symm.trans hrest
      · rintro ⟨hr, hrest⟩
        exact ⟨true, hr, ih.mpr hrest⟩

theorem bind_guard_iff {x k : Except Failure Bool} :
    (do
      if !(← x) then return false
      k) = .ok true ↔ x = .ok true ∧ k = .ok true := by
  rw [Except.bind_eq_ok_iff]
  constructor
  · rintro ⟨r, hr, hk⟩
    cases r with
    | true => exact ⟨hr, hk⟩
    | false => cases hk
  · rintro ⟨hx, hk⟩
    exact ⟨true, hx, hk⟩

theorem sameNumber_iff : sameNumber x y = .ok true ↔ x.cmp? y = some .eq := by
  unfold sameNumber
  split
  · case isTrue h =>
      refine iff_of_false nofun fun hcmp => ?_
      obtain ⟨hx, hy⟩ := Decimal.isNaN_of_cmp? hcmp
      rw [Decimal.isSignaling_of_isNaN hx, Decimal.isSignaling_of_isNaN hy] at h
      cases h
  · simp

theorem sameAtom_ne_of_number (hb : b.number? = some y) : sameAtom a b ≠ .ok true := by
  cases b with
  | bool | int | float | decimal =>
      cases a with
      | _ => exact nofun
  | _ => cases hb

theorem sameAtom_iff (hb : b.isAtom) : sameAtom a b = .ok true ↔ a = b := by
  cases b with
  | null | text | bytes | date | timestamp | scorecard | bands =>
      cases a with
      | _ => simp [sameAtom]
  | _ => cases hb

theorem sameScalar_iff_number (hb : b.number? = some y) :
    (match a.number?, b.number? with
      | some x, some y => sameNumber x y
      | _, _ => sameAtom a b) = .ok true ↔ ∃ x, a.number? = some x ∧ x.cmp? y = some .eq := by
  rw [hb]
  cases a.number? with
  | none => simpa using sameAtom_ne_of_number hb
  | some x => simpa using sameNumber_iff

theorem sameScalar_iff_atom (hb : b.number? = none) :
    (match a.number?, b.number? with
      | some x, some y => sameNumber x y
      | _, _ => sameAtom a b) = .ok true ↔ sameAtom a b = .ok true := by
  rw [hb]
  cases a.number? with
  | _ => rfl

/-- Shared values apart, a comparison looks at the outside of both values and at their parts. -/
theorem isSame_iff_matches (ha : ∀ n, a ≠ .shared n) :
    IsSame cells a b ↔ Matches (IsSame cells) a b := by
  have hderef : cells.deref a = a := deref_of_not_shared ha
  change a.same cells b = .ok true ↔ _
  -- By the kind of the second value; a first value of another kind neither matches nor is the same.
  cases b with
  | list ys =>
      rw [same, hderef, Matches.list_iff]
      cases a with
      | list xs => simpa [guard_eq_true_iff] using sameItems_iff
      | _ => simp
  | tuple ys =>
      rw [same, hderef, Matches.tuple_iff]
      cases a with
      | tuple xs => simpa [guard_eq_true_iff] using sameItems_iff
      | _ => simp
  | set ys | frozenSet ys =>
      rw [same, hderef, Matches.members_iff rfl]
      cases a with
      | set xs | frozenSet xs => simp [setMembers?, guard_eq_true_iff, sameMembers_iff]
      | _ => simp [setMembers?]
  | map fs =>
      rw [same, hderef, Matches.map_iff]
      cases a with
      | map es => simp [guard_eq_true_iff, foldlM_sameEntry_iff, sameEntry_iff]
      | _ => simp
  | lead email name company domain fields utm extra =>
      rw [same, hderef, Matches.lead_iff]
      cases a with
      | lead =>
          simp only [bind_guard_iff]
          simp [IsSame]
      | _ => simp
  | rule id teamId kind enabled order definition =>
      rw [same, hderef, Matches.rule_iff]
      cases a with
      | rule => simp [guard_eq_true_iff, IsSame, and_assoc]
      | _ => simp
  | bool | int | float | decimal =>
      rw [same, hderef, Matches.number_iff rfl]
      · exact sameScalar_iff_number rfl
      all_goals exact nofun
  | shared n | incomparable text =>
      rw [same, hderef]
      · refine iff_of_false ?_ fun h => ?_
        · cases a with
          | shared m => exact absurd rfl (ha m)
          | _ => exact nofun
        · cases h with
          | number _ hb | members _ hb | atom hb => cases hb
      all_goals exact nofun
  | _ =>
      rw [same, hderef, Matches.atom_iff rfl]
      · exact (sameScalar_iff_atom rfl).trans (sameAtom_iff rfl)
      all_goals exact nofun

end Qualify.Value
