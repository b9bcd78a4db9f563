import Qualify.Proofs.Value.Equality

/-!
# Places inside two values

Two lists, two tuples or two mappings have places in common: the items at one position, the keys
that are the same and the values under them.  Values that are the same are the same in every place
that they have in common (`Value.Facing.isSame`), and whatever stands in a place can be replaced by
anything that is the same, with a value that is the same on the whole
(`Value.exists_facing`).
-/

namespace Qualify.Value

variable {a b c e u v w : Value} {xs ys : List Value} {es fs : List (Value × Value)}

/-! ## Places -/

/-- The values `u` and `v` have the same place directly inside `a` and `e`. -/
inductive Beside : Value → Value → Value → Value → Prop
  | item {xs ys : List Value} {u v : Value} (h : (u, v) ∈ xs.zip ys) :
      Beside (.list xs) (.list ys) u v
  | component {xs ys : List Value} {u v : Value} (h : (u, v) ∈ xs.zip ys) :
      Beside (.tuple xs) (.tuple ys) u v
  | key {es fs : List (Value × Value)} {e f : Value × Value} (he : e ∈ es) (hf : f ∈ fs)
      (h : IsSame [] e.1 f.1) : Beside (.map es) (.map fs) e.1 f.1
  | value {es fs : List (Value × Value)} {e f : Value × Value} (he : e ∈ es) (hf : f ∈ fs)
      (h : IsSame [] e.1 f.1) : Beside (.map es) (.map fs) e.2 f.2

/-- The values `u` and `v` have the same place inside `a` and `e`, at any depth. -/
inductive Facing : Value → Value → Value → Value → Prop
  | here (a e : Value) : Facing a e a e
  | inside {a e b c u v : Value} (h : Beside a e b c) (h' : Facing b c u v) : Facing a e u v

/-- The places directly inside lists, tuples and mappings. -/
def places : Value → List Value
  | .list xs | .tuple xs => xs
  | .map es => (Value.map es).parts
  | _ => []

/-- The value `u` stands in some place inside another one, at any depth but the outermost. -/
inductive Inside (u : Value) : Value → Prop
  | place {a : Value} (h : u ∈ a.places) : Inside u a
  | deeper {a b : Value} (h : b ∈ a.places) (h' : Inside u b) : Inside u a

theorem mem_parts_of_mem_places (h : u ∈ a.places) : u ∈ a.parts := by
  cases a with
  | list | tuple | map => exact h
  | _ => cases h

namespace Beside

theorem mem_places (h : Beside a e u v) : u ∈ a.places ∧ v ∈ e.places := by
  cases h with
  | item h | component h => exact List.of_mem_zip h
  | key he hf _ => exact ⟨mem_parts_map.mpr ⟨_, he, .inl rfl⟩, mem_parts_map.mpr ⟨_, hf, .inl rfl⟩⟩
  | value he hf _ =>
      exact ⟨mem_parts_map.mpr ⟨_, he, .inr rfl⟩, mem_parts_map.mpr ⟨_, hf, .inr rfl⟩⟩

theorem isProper_left (h : Beside a e u v) (ha : a.IsProper) : u.IsProper :=
  ha.of_mem_parts (mem_parts_of_mem_places h.mem_places.1)

theorem isProper_right (h : Beside a e u v) (he : e.IsProper) : v.IsProper :=
  he.of_mem_parts (mem_parts_of_mem_places h.mem_places.2)

theorem symm (h : Beside a e u v) (ha : a.IsProper) (he : e.IsProper) : Beside e a v u := by
  have hzip : ∀ {xs ys : List Value}, (u, v) ∈ xs.zip ys → (v, u) ∈ ys.zip xs := by
    intro xs ys h
    rw [← List.zip_swap]
    exact List.mem_map.mpr ⟨_, h, rfl⟩
  cases h with
  | item h => exact .item (hzip h)
  | component h => exact .component (hzip h)
  | key hmem hmem' h =>
      exact .key hmem' hmem (isEquivalenceOn_isProper.symm (ha.isOver.key _ hmem)
        (he.isOver.key _ hmem') h)
  | value hmem hmem' h =>
      exact .value hmem' hmem (isEquivalenceOn_isProper.symm (ha.isOver.key _ hmem)
        (he.isOver.key _ hmem') h)

/-- What is the same is the same in every place directly inside. -/
theorem isSame (h : Beside a e u v) (ha : a.IsProper) (he : e.IsProper) (hsame : IsSame [] a e) :
    IsSame [] u v := by
  rw [isSame_iff_matches ha.distinct.not_shared] at hsame
  cases h with
  | item h =>
      obtain ⟨_, hxs, hitems⟩ := Matches.list_iff.mp hsame
      cases hxs
      exact (List.forall₂_iff_zip.mp hitems).2 h
  | component h =>
      obtain ⟨_, hxs, hitems⟩ := Matches.tuple_iff.mp hsame
      cases hxs
      exact (List.forall₂_iff_zip.mp hitems).2 h
  | key _ _ h => exact h
  | value hmem hmem' h =>
      -- The entry found under the key is the one in this place, as there is no other.
      obtain ⟨_, hes, -, hentries⟩ := Matches.map_iff.mp hsame
      cases hes
      obtain ⟨f, hfind, hvalue⟩ := hentries _ hmem
      have hfound := (isEquivalenceOn_isProper.find?_eq_iff he.isOver.key (ha.isOver.key _ hmem)
        he.distinct).mpr ⟨hmem', h⟩
      obtain rfl := Option.some.inj (hfind.symm.trans hfound)
      exact hvalue

end Beside

namespace Facing

theorem symm (h : Facing a e u v) (ha : a.IsProper) (he : e.IsProper) : Facing e a v u := by
  induction h with
  | here => exact .here _ _
  | inside h _ ih =>
      exact .inside (h.symm ha he) (ih (h.isProper_left ha) (h.isProper_right he))

/-- What is the same is the same in every place. -/
theorem isSame (h : Facing a e u v) (ha : a.IsProper) (he : e.IsProper) (hsame : IsSame [] a e) :
    u.IsProper ∧ v.IsProper ∧ IsSame [] u v := by
  induction h with
  | here => exact ⟨ha, he, hsame⟩
  | inside h _ ih =>
      exact ih (h.isProper_left ha) (h.isProper_right he) (h.isSame ha he hsame)

theorem trans (h : Facing a e b c) (h' : Facing b c u v) : Facing a e u v := by
  induction h with
  | here => exact h'
  | inside h _ ih => exact .inside h (ih h')

theorem eq_or_inside (h : Facing a e u v) : (u = a ∧ v = e) ∨ Inside u a := by
  induction h with
  | here => exact .inl ⟨rfl, rfl⟩
  | inside h _ ih =>
      rcases ih with ⟨rfl, rfl⟩ | ih
      · exact .inr (.place h.mem_places.1)
      · exact .inr (.deeper h.mem_places.1 ih)

end Facing

/-- A value that equals itself is made of such values. -/
theorem isSame_self_of_mem_places (ha : a.IsProper) (hself : IsSame [] a a) (hu : u ∈ a.places) :
    IsSame [] u u := by
  rw [isSame_iff_matches ha.distinct.not_shared] at hself
  cases a with
  | list xs =>
      obtain ⟨_, hxs, hitems⟩ := Matches.list_iff.mp hself
      cases hxs
      exact List.forall₂_same.mp hitems u hu
  | tuple xs =>
      obtain ⟨_, hxs, hitems⟩ := Matches.tuple_iff.mp hself
      cases hxs
      exact List.forall₂_same.mp hitems u hu
  | map es =>
      have hover := ha.isOver
      obtain ⟨-, hentries⟩ := (isEquivalenceOn_isProper.map_iff hover hover).mp hself
      obtain ⟨e, he, hu⟩ := mem_parts_map.mp hu
      obtain ⟨f, hf, hkeys, hvalues⟩ := hentries e he
      rcases hu with rfl | rfl
      · exact (hover.key e he).isSame_self (hover.key f hf) hkeys
      · exact (hover.value e he).isSame_self (hover.value f hf) hvalues
  | _ => cases hu

/-! ## Replacing what stands in a place -/

section

variable {before after : List Value}

theorem forall₂_replaced (hself : ∀ x ∈ before ++ u :: after, IsSame [] x x)
    (huv : IsSame [] u v) :
    List.Forall₂ (IsSame []) (before ++ u :: after) (before ++ v :: after) := by
  simp only [List.forall_mem_append, List.forall_mem_cons] at hself
  exact List.rel_append (List.forall₂_same.mpr hself.1)
    (.cons huv (List.forall₂_same.mpr hself.2.2))

theorem mem_zip_replaced : (u, v) ∈ (before ++ u :: after).zip (before ++ v :: after) := by
  rw [List.zip_append rfl]
  simp

theorem isProper_replaced (h : ∀ x ∈ before ++ u :: after, x.IsProper) (hv : v.IsProper) :
    ∀ x ∈ before ++ v :: after, x.IsProper := by
  simp only [List.forall_mem_append, List.forall_mem_cons] at h ⊢
  exact ⟨h.1, hv, h.2.2⟩

end

section

variable {before after : List (Value × Value)} {f g : Value × Value}

/-- An entry gives way to one with the same key. -/
theorem isProper_map_replaced (h : (Value.map (before ++ f :: after)).IsProper)
    (hkey : g.1.IsProper) (hvalue : g.2.IsProper) (hfg : IsSame [] f.1 g.1) :
    (Value.map (before ++ g :: after)).IsProper := by
  have hkeys := h.isOver.key
  have hvalues := h.isOver.value
  have hdistinct := h.distinct
  simp only [HasDistinct, List.pairwise_append, List.pairwise_cons, List.forall_mem_append,
    List.forall_mem_cons] at hkeys hvalues hdistinct
  obtain ⟨hbefore, ⟨hafter, hrest⟩, hacross⟩ := hdistinct
  refine .intro ?_ fun w hw => ?_
  · simp only [HasDistinct, List.pairwise_append, List.pairwise_cons, List.forall_mem_cons]
    refine ⟨hbefore, ⟨fun e he hge => ?_, hrest⟩, fun e he => ⟨fun heg => ?_, (hacross e he).2⟩⟩
    · exact hafter e he (isEquivalenceOn_isProper.trans hkeys.2.1 hkey (hkeys.2.2 e he) hfg hge)
    · exact (hacross e he).1 (isEquivalenceOn_isProper.same_of_both (hkeys.1 e he) hkeys.2.1 hkey
        heg hfg)
  · have hproper : ∀ e ∈ before ++ g :: after, e.1.IsProper ∧ e.2.IsProper := by
      simp only [List.forall_mem_append, List.forall_mem_cons]
      exact ⟨fun e he => ⟨hkeys.1 e he, hvalues.1 e he⟩, ⟨hkey, hvalue⟩,
        fun e he => ⟨hkeys.2.2 e he, hvalues.2.2 e he⟩⟩
    obtain ⟨e, he, rfl | rfl⟩ := mem_parts_map.mp hw
    · exact (hproper e he).1
    · exact (hproper e he).2

theorem isSame_map_replaced (h : (Value.map (before ++ f :: after)).IsProper)
    (h' : (Value.map (before ++ g :: after)).IsProper)
    (hself : IsSame [] (.map (before ++ f :: after)) (.map (before ++ f :: after)))
    (hkey : IsSame [] f.1 g.1) (hvalue : IsSame [] f.2 g.2) :
    IsSame [] (.map (before ++ f :: after)) (.map (before ++ g :: after)) := by
  have hentry : ∀ e ∈ before ++ f :: after, IsSame [] e.1 e.1 ∧ IsSame [] e.2 e.2 := fun e he =>
    ⟨isSame_self_of_mem_places h hself (mem_parts_map.mpr ⟨e, he, .inl rfl⟩),
      isSame_self_of_mem_places h hself (mem_parts_map.mpr ⟨e, he, .inr rfl⟩)⟩
  rw [isSame_iff_matches h.distinct.not_shared, isEquivalenceOn_isProper.map_iff h.isOver h'.isOver]
  refine ⟨by simp, fun e he => ?_⟩
  rcases List.mem_append.mp he with hbefore | hrest
  · exact ⟨e, List.mem_append_left _ hbefore, hentry e he⟩
  · rcases List.mem_cons.mp hrest with rfl | hafter
    · exact ⟨g, by simp, hkey, hvalue⟩
    · exact ⟨e, List.mem_append_right _ (List.mem_cons_of_mem _ hafter), hentry e he⟩

end

/-- What stands directly inside a value can be replaced by anything that is the same. -/
theorem exists_beside (ha : a.IsProper) (hself : IsSame [] a a) (hu : u ∈ a.places)
    (hv : v.IsProper) (huv : IsSame [] u v) :
    ∃ e, e.IsProper ∧ IsSame [] a e ∧ e.isBool = a.isBool ∧ Beside a e u v := by
  have hsame : ∀ {e : Value}, Matches (IsSame []) a e → IsSame [] a e :=
    (isSame_iff_matches ha.distinct.not_shared).mpr
  have hparts : ∀ x ∈ a.places, IsSame [] x x := fun x => isSame_self_of_mem_places ha hself
  cases a with
  | list xs =>
      obtain ⟨before, after, rfl⟩ := List.append_of_mem hu
      exact ⟨.list (before ++ v :: after),
        .intro trivial (isProper_replaced (fun x => ha.of_mem_parts) hv),
        hsame (.list (forall₂_replaced hparts huv)), rfl, .item mem_zip_replaced⟩
  | tuple xs =>
      obtain ⟨before, after, rfl⟩ := List.append_of_mem hu
      exact ⟨.tuple (before ++ v :: after),
        .intro trivial (isProper_replaced (fun x => ha.of_mem_parts) hv),
        hsame (.tuple (forall₂_replaced hparts huv)), rfl, .component mem_zip_replaced⟩
  | map es =>
      obtain ⟨f, hf, hentry⟩ := mem_parts_map.mp hu
      have hkey : IsSame [] f.1 f.1 := hparts _ (mem_parts_map.mpr ⟨f, hf, .inl rfl⟩)
      have hvalue : IsSame [] f.2 f.2 := hparts _ (mem_parts_map.mpr ⟨f, hf, .inr rfl⟩)
      have hover := ha.isOver
      obtain ⟨before, after, rfl⟩ := List.append_of_mem hf
      rcases hentry with rfl | rfl
      · have hproper := isProper_map_replaced (g := (v, f.2)) ha hv (hover.value f hf) huv
        exact ⟨_, hproper, isSame_map_replaced ha hproper hself huv hvalue, rfl,
          .key (f := (v, f.2)) hf (by simp) huv⟩
      · have hproper := isProper_map_replaced (g := (f.1, v)) ha (hover.key f hf) hv hkey
        exact ⟨_, hproper, isSame_map_replaced ha hproper hself hkey huv, rfl,
          .value (f := (f.1, v)) hf (by simp) hkey⟩
  | _ => cases hu

/-- What stands inside a value can be replaced by anything that is the same. -/
theorem exists_facing (ha : a.IsProper) (hself : IsSame [] a a) (hu : Inside u a)
    (hv : v.IsProper) (huv : IsSame [] u v) :
    ∃ e, e.IsProper ∧ IsSame [] a e ∧ e.isBool = a.isBool ∧ Facing a e u v := by
  induction hu with
  | place hu =>
      obtain ⟨e, he, hsame, hbool, hbeside⟩ := exists_beside ha hself hu hv huv
      exact ⟨e, he, hsame, hbool, .inside hbeside (.here _ _)⟩
  | deeper hb _ ih =>
      have hproper := ha.of_mem_parts (mem_parts_of_mem_places hb)
      obtain ⟨c, hc, hbc, -, hfacing⟩ := ih hproper (isSame_self_of_mem_places ha hself hb)
      obtain ⟨e, he, hsame, hbool, hbeside⟩ := exists_beside ha hself hb hc hbc
      exact ⟨e, he, hsame, hbool, .inside hbeside hfacing⟩

end Qualify.Value
