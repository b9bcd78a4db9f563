import Qualify.Proofs.Value.Matches

/-!
# Equality of values is an equality

Being the same is symmetric and transitive (`Value.isEquivalenceOn_isProper`) on values as they are
built (`Value.hasDistinct_mapOf`, `Value.hasDistinct_distinct`), in which no two keys of a mapping
and no two members of a set are the same.  It is not reflexive: what is no number does not equal
itself.

The two laws need each other: a set that is the same as another is found to be so by the members of
one side, and that none is left over on the other side is a matter of counting, for which members
with a common partner have to be the same.  So they are proved together, over the parts of values
first, then by the size of values.
-/

namespace List

variable {α β : Type} {R : α → β → Prop} {xs : List α} {ys : List β}

/-- If no two of at least as many items share a partner, no partner is left over. -/
theorem exists_partner (hlength : ys.length ≤ xs.length) (h : ∀ x ∈ xs, ∃ y ∈ ys, R x y)
    (hdistinct : xs.Pairwise fun x x' => ∀ y ∈ ys, R x y → ¬ R x' y) :
    ∀ y ∈ ys, ∃ x ∈ xs, R x y := by
  induction xs generalizing ys with
  | nil =>
      rw [length_eq_zero_iff.mp (Nat.le_zero.mp hlength)]
      exact forall_mem_nil _
  | cons x xs ih =>
      rw [pairwise_cons] at hdistinct
      rw [forall_mem_cons] at h
      obtain ⟨⟨y, hy, hxy⟩, hothers⟩ := h
      -- The partner of the first item is taken out: the other items find theirs among the rest.
      obtain ⟨before, after, rfl⟩ := append_of_mem hy
      have hsub : ∀ z ∈ before ++ after, z ∈ before ++ y :: after := by
        intro z hz
        rw [mem_append] at hz ⊢
        exact hz.imp_right (mem_cons_of_mem y)
      have hrest : ∀ z ∈ before ++ after, ∃ x ∈ xs, R x z := by
        refine ih (by simp at hlength ⊢; omega) (fun x' hx' => ?_)
          (hdistinct.2.imp fun hne z hz => hne z (hsub z hz))
        obtain ⟨z, hz, hxz⟩ := hothers x' hx'
        have hzy : z ≠ y := fun h => hdistinct.1 x' hx' y hy hxy (h ▸ hxz)
        refine ⟨z, ?_, hxz⟩
        simp only [mem_append, mem_cons, hzy, false_or] at hz
        exact mem_append.mpr hz
      intro z hz
      by_cases hzy : z = y
      · exact ⟨x, mem_cons_self, hzy ▸ hxy⟩
      · simp only [mem_append, mem_cons, hzy, false_or] at hz
        obtain ⟨x', hx', hxz⟩ := hrest z (mem_append.mpr hz)
        exact ⟨x', mem_cons_of_mem x hx', hxz⟩

end List

namespace Qualify.Value

variable {a b c v w : Value} {xs ys zs : List Value}
variable {es fs : List (Value × Value)}

/-! ## Values as they are built -/

/-- Keys of a mapping and members of a set are pairwise different, and nothing is shared. -/
def HasDistinct : Value → Prop
  | .map es => es.Pairwise fun e f => ¬ IsSame [] e.1 f.1
  | .set xs | .frozenSet xs => xs.Pairwise fun x y => ¬ IsSame [] x y
  | .shared _ => False
  | _ => True

/-- A value in which all keys and members are pairwise different and nothing is shared. -/
inductive IsProper : Value → Prop
  | intro {v : Value} (distinct : v.HasDistinct) (parts : ∀ w ∈ v.parts, IsProper w) : IsProper v

theorem IsProper.distinct (h : v.IsProper) : v.HasDistinct := by
  cases h with
  | intro distinct _ => exact distinct

theorem IsProper.of_mem_parts (h : v.IsProper) (hw : w ∈ v.parts) : w.IsProper := by
  cases h with
  | intro _ parts => exact parts w hw

theorem IsProper.leaf (distinct : v.HasDistinct) (h : v.parts = []) : v.IsProper :=
  .intro distinct (h ▸ List.forall_mem_nil _)

theorem HasDistinct.not_shared (h : v.HasDistinct) (n : Nat) : v ≠ .shared n := by
  rintro rfl
  exact h

theorem fst_of_mem_insertEntry {e : Value × Value} (h : e ∈ insertEntry a b es) :
    (∃ f ∈ es, e.1 = f.1) ∨ e.1 = a := by
  induction es with
  | nil => exact .inr (congrArg Prod.fst (List.mem_singleton.mp h))
  | cons f es ih =>
      rw [insertEntry] at h
      split at h
      · rcases List.mem_cons.mp h with rfl | h
        · exact .inl ⟨f, List.mem_cons_self, rfl⟩
        · exact .inl ⟨e, List.mem_cons_of_mem _ h, rfl⟩
      · rcases List.mem_cons.mp h with rfl | h
        · exact .inl ⟨f, List.mem_cons_self, rfl⟩
        · exact (ih h).imp_left fun ⟨g, hg, heq⟩ => ⟨g, List.mem_cons_of_mem _ hg, heq⟩

/-- Setting an entry keeps the keys different. -/
theorem pairwise_insertEntry (h : es.Pairwise fun e f => ¬ IsSame [] e.1 f.1) :
    (insertEntry a b es).Pairwise fun e f => ¬ IsSame [] e.1 f.1 := by
  induction es with
  | nil => exact List.pairwise_singleton _ _
  | cons f es ih =>
      rw [List.pairwise_cons] at h
      rw [insertEntry]
      split
      · exact List.pairwise_cons.mpr h
      · case isFalse hother =>
          refine List.pairwise_cons.mpr ⟨fun e he => ?_, ih h.2⟩
          obtain ⟨g, hg, heq⟩ | heq := fst_of_mem_insertEntry he
          · exact heq ▸ h.1 g hg
          · exact heq ▸ mt sameKey_iff.mpr hother

/-- A mapping that is built has different keys, whatever its entries. -/
theorem hasDistinct_mapOf (es : List (Value × Value)) : (mapOf es).HasDistinct := by
  have hfold : ∀ before : List (Value × Value), (before.Pairwise fun e f => ¬ IsSame [] e.1 f.1) →
      (es.foldl (fun acc e => insertEntry e.1 e.2 acc) before).Pairwise
        fun e f => ¬ IsSame [] e.1 f.1 := by
    induction es with
    | nil => exact fun _ h => h
    | cons e es ih => exact fun before h => ih _ (pairwise_insertEntry h)
  exact hfold [] .nil

/-- A set that is built has different members, whatever goes into it. -/
theorem hasDistinct_distinct (xs : List Value) : (Value.set (distinct xs)).HasDistinct := by
  have hfold : ∀ before : List Value, (before.Pairwise fun x y => ¬ IsSame [] x y) →
      (xs.foldl (fun acc x => if acc.any (sameKey · x) then acc else acc ++ [x]) before).Pairwise
        fun x y => ¬ IsSame [] x y := by
    induction xs with
    | nil => exact fun _ h => h
    | cons x xs ih =>
        intro before h
        refine ih _ ?_
        dsimp only
        split
        · exact h
        · case isFalse hnew =>
            refine List.pairwise_append.mpr ⟨h, List.pairwise_singleton _ _, fun y hy z hz => ?_⟩
            obtain rfl := List.mem_singleton.mp hz
            exact fun hsame => hnew (List.any_eq_true.mpr ⟨y, hy, sameKey_iff.mpr hsame⟩)
  exact hfold [] .nil

/-- A value that shares nothing is compared without a look at the cells. -/
theorem IsProper.isSame_iff (h : a.IsProper) (cells : Cells) :
    IsSame cells a b ↔ IsSame [] a b := by
  revert b
  induction a using inductionOnParts with
  | step a ih =>
      intro b
      have hparts : ∀ x ∈ a.parts, ∀ y ∈ b.parts, IsSame cells x y ↔ IsSame [] x y :=
        fun x hx y _ => ih x hx (h.of_mem_parts hx)
      rw [isSame_iff_matches h.distinct.not_shared, isSame_iff_matches h.distinct.not_shared]
      exact ⟨.mono fun x hx y hy => (hparts x hx y hy).mp,
        .mono fun x hx y hy => (hparts x hx y hy).mpr⟩

/-! ## Symmetry and transitivity over the parts -/

/-- Among the values with a property, being the same is symmetric and transitive. -/
structure IsEquivalenceOn (P : Value → Prop) : Prop where
  symm {a b : Value} : P a → P b → IsSame [] a b → IsSame [] b a
  trans {a b c : Value} : P a → P b → P c → IsSame [] a b → IsSame [] b c → IsSame [] a c

/-- A value with distinct keys and members whose parts have a property. -/
structure IsOver (P : Value → Prop) (v : Value) : Prop where
  distinct : v.HasDistinct
  parts : ∀ w ∈ v.parts, P w

theorem HasDistinct.members (h : v.HasDistinct) (hv : v.setMembers? = some xs) :
    xs.Pairwise fun x y => ¬ IsSame [] x y := by
  cases v with
  | set | frozenSet => exact Option.some.inj hv ▸ h
  | _ => cases hv

namespace IsOver

variable {P : Value → Prop}

theorem key (h : IsOver P (.map es)) : ∀ e ∈ es, P e.1 :=
  fun e he => h.parts _ (mem_parts_map.mpr ⟨e, he, .inl rfl⟩)

theorem value (h : IsOver P (.map es)) : ∀ e ∈ es, P e.2 :=
  fun e he => h.parts _ (mem_parts_map.mpr ⟨e, he, .inr rfl⟩)

theorem members (h : IsOver P v) (hv : v.setMembers? = some xs) : ∀ x ∈ xs, P x :=
  fun x hx => h.parts x (mem_parts_of_setMembers? hv hx)

end IsOver

namespace IsEquivalenceOn

variable {P : Value → Prop} (hP : IsEquivalenceOn P)
include hP

/-- Two values that are the same as a third are the same. -/
theorem same_of_both (ha : P a) (hb : P b) (hc : P c) (hac : IsSame [] a c) (hbc : IsSame [] b c) :
    IsSame [] a b :=
  hP.trans ha hc hb hac (hP.symm hb hc hbc)

theorem items_symm (hxs : ∀ x ∈ xs, P x) (hys : ∀ y ∈ ys, P y)
    (h : List.Forall₂ (IsSame []) xs ys) : List.Forall₂ (IsSame []) ys xs := by
  induction h with
  | nil => exact .nil
  | cons hxy _ ih =>
      rw [List.forall_mem_cons] at hxs hys
      exact .cons (hP.symm hxs.1 hys.1 hxy) (ih hxs.2 hys.2)

theorem items_trans (hxs : ∀ x ∈ xs, P x) (hys : ∀ y ∈ ys, P y) (hzs : ∀ z ∈ zs, P z)
    (h : List.Forall₂ (IsSame []) xs ys) (h' : List.Forall₂ (IsSame []) ys zs) :
    List.Forall₂ (IsSame []) xs zs := by
  induction h generalizing zs with
  | nil => exact h'
  | cons hxy _ ih =>
      cases h' with
      | cons hyz h' =>
          rw [List.forall_mem_cons] at hxs hys hzs
          exact .cons (hP.trans hxs.1 hys.1 hzs.1 hxy hyz) (ih hxs.2 hys.2 hzs.2 h')

/-- Each side of a set finds its members in the other: the members of one have different partners,
and there are as many in both. -/
theorem members_symm (hxs : ∀ x ∈ xs, P x) (hys : ∀ y ∈ ys, P y)
    (hdistinct : ys.Pairwise fun y y' => ¬ IsSame [] y y') (hlength : xs.length = ys.length)
    (h : ∀ y ∈ ys, ∃ x ∈ xs, IsSame [] x y) : ∀ x ∈ xs, ∃ y ∈ ys, IsSame [] y x := by
  refine List.exists_partner hlength.le (fun y hy => ?_) (hdistinct.imp_of_mem ?_)
  · obtain ⟨x, hx, hxy⟩ := h y hy
    exact ⟨x, hx, hP.symm (hxs x hx) (hys y hy) hxy⟩
  · intro y y' hy hy' hne x hx hyx hyx'
    exact hne (hP.same_of_both (hys y hy) (hys y' hy') (hxs x hx) hyx hyx')

/-- Among different keys the first found is the only one. -/
theorem find?_eq_iff (hkeys : ∀ f ∈ fs, P f.1) (ha : P a)
    (hdistinct : fs.Pairwise fun f f' => ¬ IsSame [] f.1 f'.1) {f : Value × Value} :
    (fs.find? fun f => sameKey a f.1) = some f ↔ f ∈ fs ∧ IsSame [] a f.1 := by
  constructor
  · intro h
    obtain ⟨hkey, before, after, rfl, -⟩ := List.find?_eq_some_iff_append.mp h
    exact ⟨by simp, sameKey_iff.mp hkey⟩
  · rintro ⟨hf, hsame⟩
    induction fs with
    | nil => cases hf
    | cons g fs ih =>
        rw [List.forall_mem_cons] at hkeys
        rw [List.pairwise_cons] at hdistinct
        rw [List.find?_cons]
        rcases List.mem_cons.mp hf with rfl | hf
        · rw [sameKey_iff.mpr hsame]
        · have hother : sameKey a g.1 = false := by
            rw [Bool.eq_false_iff, ne_eq, sameKey_iff]
            intro hag
            exact hdistinct.1 f hf
              (hP.trans hkeys.1 ha (hkeys.2 f hf) (hP.symm ha hkeys.1 hag) hsame)
          rw [hother]
          exact ih hkeys.2 hdistinct.2 hf

theorem map_iff (hes : IsOver P (.map es)) (hfs : IsOver P (.map fs)) :
    Matches (IsSame []) (.map es) (.map fs) ↔ es.length = fs.length ∧
      ∀ e ∈ es, ∃ f ∈ fs, IsSame [] e.1 f.1 ∧ IsSame [] e.2 f.2 := by
  have hentry : ∀ e ∈ es, (∃ f, (fs.find? fun f => sameKey e.1 f.1) = some f ∧ IsSame [] e.2 f.2) ↔
      ∃ f ∈ fs, IsSame [] e.1 f.1 ∧ IsSame [] e.2 f.2 := by
    intro e he
    simp only [hP.find?_eq_iff hfs.key (hes.key e he) hfs.distinct, and_assoc]
  rw [Matches.map_iff]
  constructor
  · rintro ⟨_, h, hlength, hall⟩
    cases h
    exact ⟨hlength, fun e he => (hentry e he).mp (hall e he)⟩
  · rintro ⟨hlength, hall⟩
    exact ⟨es, rfl, hlength, fun e he => (hentry e he).mpr (hall e he)⟩

theorem entries_symm (hes : IsOver P (.map es)) (hfs : IsOver P (.map fs))
    (h : Matches (IsSame []) (.map es) (.map fs)) : Matches (IsSame []) (.map fs) (.map es) := by
  obtain ⟨hlength, hall⟩ := (hP.map_iff hes hfs).mp h
  refine (hP.map_iff hfs hes).mpr ⟨hlength.symm, fun f hf => ?_⟩
  have hpartner : ∃ e ∈ es, IsSame [] e.1 f.1 ∧ IsSame [] e.2 f.2 := by
    refine List.exists_partner hlength.ge hall (hes.distinct.imp_of_mem ?_) f hf
    intro e e' he he' hne f hf hef hef'
    exact hne (hP.same_of_both (hes.key e he) (hes.key e' he') (hfs.key f hf) hef.1 hef'.1)
  obtain ⟨e, he, hkeys, hvalues⟩ := hpartner
  exact ⟨e, he, hP.symm (hes.key e he) (hfs.key f hf) hkeys,
    hP.symm (hes.value e he) (hfs.value f hf) hvalues⟩

theorem matches_symm (ha : IsOver P a) (hb : IsOver P b) (h : Matches (IsSame []) a b) :
    Matches (IsSame []) b a := by
  cases h with
  | number ha hb h => exact .number hb ha (Decimal.cmp?_eq_symm h)
  | atom h => exact .atom h
  | list h => exact .list (hP.items_symm ha.parts hb.parts h)
  | tuple h => exact .tuple (hP.items_symm ha.parts hb.parts h)
  | lead h => exact .lead (hP.items_symm ha.parts hb.parts h)
  | rule h =>
      have hdefinition := ha.parts _ (List.mem_singleton_self _)
      exact .rule (hP.symm hdefinition (hb.parts _ (List.mem_singleton_self _)) h)
  | map hlength h => exact hP.entries_symm ha hb (.map hlength h)
  | members hxs hys hlength h =>
      exact .members hys hxs hlength.symm (hP.members_symm (ha.members hxs) (hb.members hys)
        (hb.distinct.members hys) hlength h)

theorem matches_trans (ha : IsOver P a) (hb : IsOver P b) (hc : IsOver P c)
    (h : Matches (IsSame []) a b) (h' : Matches (IsSame []) b c) : Matches (IsSame []) a c := by
  cases h' with
  | number hb hc h' =>
      obtain ⟨x, ha, h⟩ := (Matches.number_iff hb).mp h
      exact .number ha hc (Decimal.cmp?_eq_trans h h')
  | atom => exact h
  | list h' =>
      obtain ⟨xs, rfl, hxs⟩ := Matches.list_iff.mp h
      exact .list (hP.items_trans ha.parts hb.parts hc.parts hxs h')
  | tuple h' =>
      obtain ⟨xs, rfl, hxs⟩ := Matches.tuple_iff.mp h
      exact .tuple (hP.items_trans ha.parts hb.parts hc.parts hxs h')
  | lead h' =>
      cases h with
      | lead h => exact .lead (hP.items_trans ha.parts hb.parts hc.parts h h')
      | number _ hb | members _ hb | atom hb => cases hb
  | rule h' =>
      obtain ⟨d, rfl, hd⟩ := Matches.rule_iff.mp h
      exact .rule (hP.trans (ha.parts _ (List.mem_singleton_self _))
        (hb.parts _ (List.mem_singleton_self _)) (hc.parts _ (List.mem_singleton_self _)) hd h')
  | members hys hzs hlength' h' =>
      obtain ⟨xs, hxs, hlength, h⟩ := (Matches.members_iff hys).mp h
      refine .members hxs hzs (hlength.trans hlength') fun z hz => ?_
      obtain ⟨y, hy, hyz⟩ := h' z hz
      obtain ⟨x, hx, hxy⟩ := h y hy
      exact ⟨x, hx, hP.trans (ha.members hxs x hx) (hb.members hys y hy) (hc.members hzs z hz)
        hxy hyz⟩
  | map hlength' h' =>
      obtain ⟨es, rfl, -, -⟩ := Matches.map_iff.mp h
      obtain ⟨hlength, h⟩ := (hP.map_iff ha hb).mp h
      obtain ⟨hlength', h'⟩ := (hP.map_iff hb hc).mp (.map hlength' h')
      refine (hP.map_iff ha hc).mpr ⟨hlength.trans hlength', fun e he => ?_⟩
      obtain ⟨f, hf, hef, hef'⟩ := h e he
      obtain ⟨g, hg, hfg, hfg'⟩ := h' f hf
      exact ⟨g, hg, hP.trans (ha.key e he) (hb.key f hf) (hc.key g hg) hef hfg,
        hP.trans (ha.value e he) (hb.value f hf) (hc.value g hg) hef' hfg'⟩

/-- If being the same is an equivalence on the parts, it is one on what they make up. -/
theorem lift : IsEquivalenceOn (IsOver P) where
  symm ha hb h := by
    rw [isSame_iff_matches ha.distinct.not_shared] at h
    exact (isSame_iff_matches hb.distinct.not_shared).mpr (hP.matches_symm ha hb h)
  trans ha hb hc h h' := by
    rw [isSame_iff_matches ha.distinct.not_shared] at h ⊢
    rw [isSame_iff_matches hb.distinct.not_shared] at h'
    exact hP.matches_trans ha hb hc h h'

end IsEquivalenceOn

/-! ## Symmetry and transitivity -/

theorem sizeOf_lt_of_mem_parts (h : w ∈ v.parts) : sizeOf w < sizeOf v := by
  cases v with
  | list xs | tuple xs | set xs | frozenSet xs =>
      have hlt : sizeOf w < sizeOf xs := List.sizeOf_lt_of_mem h
      simp only [list.sizeOf_spec, tuple.sizeOf_spec, set.sizeOf_spec, frozenSet.sizeOf_spec]
      omega
  | map es =>
      obtain ⟨e, he, hw⟩ := mem_parts_map.mp h
      have hlt := List.sizeOf_lt_of_mem he
      obtain ⟨k, u⟩ := e
      simp only [map.sizeOf_spec, Prod.mk.sizeOf_spec] at hlt ⊢
      rcases hw with rfl | rfl <;> omega
  | lead email name company domain fields utm extra =>
      simp only [parts, List.mem_cons, List.not_mem_nil, or_false] at h
      simp only [lead.sizeOf_spec]
      rcases h with rfl | rfl | rfl | rfl | rfl | rfl | rfl <;> omega
  | rule =>
      obtain rfl := List.mem_singleton.mp h
      simp only [rule.sizeOf_spec]
      omega
  | _ => cases h

/-- Being the same is symmetric and transitive: by induction on the size of the values, since the
two properties need each other where members are to be found again. -/
theorem isEquivalenceOn_isProper : IsEquivalenceOn IsProper := by
  have hbelow : ∀ n, IsEquivalenceOn fun v => v.IsProper ∧ sizeOf v < n := by
    intro n
    induction n with
    | zero =>
        exact ⟨fun ha => absurd ha.2 (Nat.not_lt_zero _), fun ha => absurd ha.2 (Nat.not_lt_zero _)⟩
    | succ n ih =>
        have hover : ∀ {v : Value}, v.IsProper ∧ sizeOf v < n + 1 →
            IsOver (fun v => v.IsProper ∧ sizeOf v < n) v := by
          rintro v ⟨hv, hsize⟩
          refine ⟨hv.distinct, fun w hw => ⟨hv.of_mem_parts hw, ?_⟩⟩
          have := sizeOf_lt_of_mem_parts hw
          omega
        exact ⟨fun ha hb => ih.lift.symm (hover ha) (hover hb),
          fun ha hb hc => ih.lift.trans (hover ha) (hover hb) (hover hc)⟩
  constructor
  · intro a b ha hb
    exact (hbelow (sizeOf a + sizeOf b + 1)).symm ⟨ha, by omega⟩ ⟨hb, by omega⟩
  · intro a b c ha hb hc
    exact (hbelow (sizeOf a + sizeOf b + sizeOf c + 1)).trans ⟨ha, by omega⟩ ⟨hb, by omega⟩
      ⟨hc, by omega⟩

theorem IsProper.isOver (h : v.IsProper) : IsOver IsProper v :=
  ⟨h.distinct, fun _ => h.of_mem_parts⟩

/-- What is the same as something is the same as itself. -/
theorem IsProper.isSame_self (ha : a.IsProper) (hb : b.IsProper) (h : IsSame [] a b) :
    IsSame [] a a :=
  isEquivalenceOn_isProper.same_of_both ha ha hb h h

end Qualify.Value
