import Qualify.Proofs.Lead.Plain
import Qualify.Proofs.Source

/-!
# Files hold no objects

What a file holds are scalars and collections of them.  So whatever is found in its data by going
from mapping to mapping has yet to be read: it is a mapping or a leaf, and never a scorecard
(`Rulebook.isRaw_of_dataOf`).
-/

namespace Qualify

namespace Value

/-- Is the value a mapping or a scorecard? -/
def isMapOrScorecard : Value → Bool
  | .map _ | .scorecard _ => true
  | _ => false

/-- A value in which no scorecard is met on the way from mapping to mapping. -/
inductive IsRaw : Value → Prop
  | leaf {v : Value} (h : v.isMapOrScorecard = false) : IsRaw v
  | map {es : List (Value × Value)} (h : ∀ e ∈ es, IsRaw e.2) : IsRaw (.map es)

variable {v w : Value} {es fs : List (Value × Value)} {key : String}

theorem IsRaw.forall_mem (h : (Value.map es).IsRaw) : ∀ e ∈ es, e.2.IsRaw := by
  cases h with
  | leaf h => cases h
  | map h => exact h

theorem IsRaw.of_lookup (h : ∀ e ∈ es, e.2.IsRaw) (hlookup : lookup key es = some v) : v.IsRaw := by
  obtain ⟨k, hk⟩ := exists_mem_of_lookup hlookup
  exact h _ hk

/-- Setting an entry leaves no values behind but the one set and those that were there. -/
theorem snd_of_mem_insertEntry {key : Value} {e : Value × Value} (h : e ∈ insertEntry key v es) :
    e.2 = v ∨ ∃ f ∈ es, e.2 = f.2 := by
  fun_induction insertEntry key v es with
  | case1 => exact .inl (congrArg Prod.snd (List.mem_singleton.mp h))
  | case2 k w es =>
      rcases List.mem_cons.mp h with rfl | h
      · exact .inl rfl
      · exact .inr ⟨e, List.mem_cons_of_mem _ h, rfl⟩
  | case3 k w es _ ih =>
      rcases List.mem_cons.mp h with rfl | h
      · exact .inr ⟨_, List.mem_cons_self, rfl⟩
      · obtain hv | ⟨f, hf, he⟩ := ih h
        · exact .inl hv
        · exact .inr ⟨f, List.mem_cons_of_mem _ hf, he⟩

theorem isRaw_mapOf (h : ∀ e ∈ es, e.2.IsRaw) : (mapOf es).IsRaw := by
  refine .map ?_
  suffices hfold : ∀ before : List (Value × Value), (∀ e ∈ before, e.2.IsRaw) →
      ∀ e ∈ es.foldl (fun acc e => insertEntry e.1 e.2 acc) before, e.2.IsRaw from
    hfold [] (List.forall_mem_nil _)
  induction es with
  | nil => exact fun before hbefore => hbefore
  | cons f es ih =>
      have ⟨hf, hes⟩ := List.forall_mem_cons.mp h
      intro before hbefore
      refine ih hes _ fun e he => ?_
      obtain hv | ⟨g, hg, he⟩ := snd_of_mem_insertEntry he
      · rw [hv]
        exact hf
      · rw [he]
        exact hbefore g hg

end Value

namespace Yaml

open Value (IsRaw)

theorem isRaw_of_bind {α : Type} {x : Except Fault α} {f : α → Value} {v : Value}
    (h : (x >>= fun a => pure (f a)) = .ok v) (hf : ∀ a, (f a).isMapOrScorecard = false) :
    v.IsRaw := by
  obtain ⟨a, -, h⟩ := Except.bind_eq_ok_iff.mp h
  rw [← Except.pure_eq_ok_iff.mp h]
  exact .leaf (hf a)

theorem isRaw_integer {s : String} {v : Value} (h : integer s = .ok v) : v.IsRaw := by
  obtain ⟨⟨negative, cs⟩, -, h⟩ := Except.bind_eq_ok_iff.mp h
  dsimp only at h
  split at h
  case h_6 =>
    split at h
    · exact isRaw_of_bind h fun n => rfl
    · exact isRaw_of_bind h fun n => rfl
  all_goals exact isRaw_of_bind h fun n => rfl

theorem isRaw_number {s : String} {v : Value} (h : number s = .ok v) : v.IsRaw := by
  obtain ⟨⟨negative, cs⟩, -, h⟩ := Except.bind_eq_ok_iff.mp h
  dsimp only at h
  split at h
  · exact isRaw_of_bind h fun x => rfl
  split at h
  · exact isRaw_of_bind h fun x => rfl
  split at h
  · obtain ⟨parts, -, h⟩ := Except.bind_eq_ok_iff.mp h
    exact isRaw_of_bind h fun x => rfl
  · exact isRaw_of_bind h fun x => rfl

theorem isRaw_date {s : String} {v : Value} (h : date s = .ok v) : v.IsRaw := by
  simp only [date] at h
  split at h
  · cases h
  split at h
  · split at h
    · cases h
    · rw [← Except.pure_eq_ok_iff.mp h]
      exact .leaf rfl
  · split at h
    · cases h
    · rw [← Except.pure_eq_ok_iff.mp h]
      exact .leaf rfl

theorem isRaw_binary {s : String} {v : Value} (h : binary s = .ok v) : v.IsRaw := by
  simp only [binary] at h
  split at h
  · cases h
  split at h
  · cases h
  · rw [← Except.ok.inj h]
    exact .leaf rfl

/-- A scalar is neither a mapping nor a scorecard. -/
theorem isRaw_scalarValue {tag : Tag} {s : String} {v : Value} (h : scalarValue tag s = .ok v) :
    v.IsRaw := by
  cases tag with
  | null | text =>
      rw [← Except.ok.inj h]
      exact .leaf rfl
  | bool =>
      simp only [scalarValue, truthValue] at h
      split at h
      · rw [← Except.ok.inj h]
        exact .leaf rfl
      · cases h
  | int => exact isRaw_integer h
  | float => exact isRaw_number h
  | binary => exact isRaw_binary h
  | timestamp => exact isRaw_date h
  | omap | pairs | set | sequence | mapping | merge | value | unknown => cases h

/-! ## Nodes -/

theorem isRaw_malformedAs (tag : Tag) : (malformedAs tag).result.IsRaw := by
  unfold malformedAs
  split
  · exact .leaf rfl
  · exact .leaf rfl

theorem isRaw_ofExcept {x : Except Fault Value} (h : ∀ v, x = .ok v → v.IsRaw) :
    (Staged.ofExcept x).result.IsRaw := by
  cases x with
  | ok v => exact h v rfl
  | error f => exact .leaf rfl

theorem isRaw_defaultValue (tag : Tag) (text : Option String) :
    (defaultValue tag text).result.IsRaw := by
  cases text with
  | none => exact .leaf rfl
  | some s =>
      rw [defaultValue]
      split
      · exact .leaf rfl
      · exact isRaw_ofExcept fun v hv => isRaw_scalarValue hv

/-- The values among entries are raw. -/
def HoldsRaw (m : Staged (List (Value × Value))) : Prop := ∀ e ∈ m.result, e.2.IsRaw

structure Entries.HoldRaw (es : Entries) : Prop where
  taken : HoldsRaw es.taken
  own : HoldsRaw es.own

theorem HoldsRaw.append {m n : Staged (List (Value × Value))} (hm : HoldsRaw m) (hn : HoldsRaw n) :
    HoldsRaw (do return (← m) ++ (← n)) := by
  intro e he
  rcases List.mem_append.mp he with he | he
  · exact hm e he
  · exact hn e he

theorem Entries.HoldRaw.all {es : Entries} (h : es.HoldRaw) : HoldsRaw es.all := h.taken.append h.own

theorem holdsRaw_entriesOr {es : Option Entries} (h : ∀ r, es = some r → r.HoldRaw) :
    HoldsRaw (entriesOr es) := by
  cases es with
  | none => exact List.forall_mem_nil _
  | some r => exact (h r rfl).all

mutual

/-- What a node denotes is raw. -/
theorem isRaw_build (n : Node) : (build n).result.IsRaw := by
  match n with
  | .scalar tag s =>
      rw [build]
      split
      · exact isRaw_malformedAs tag
      · exact isRaw_ofExcept fun v hv => isRaw_scalarValue hv
  | .sequence tag items =>
      rw [build]
      split
      · exact .leaf rfl
      split
      · exact .leaf rfl
      · exact isRaw_malformedAs tag
  | .mapping tag es =>
      rw [build]
      split
      · exact Value.isRaw_mapOf (holdsRaw_entriesOr (holdRaw_entries es))
      split
      · exact .leaf rfl
      split
      · exact isRaw_malformedAs tag
      · exact isRaw_defaultValue tag _
  | .recursive => exact .leaf rfl
termination_by structural n

theorem holdRaw_entries (es : List (Node × Node)) (r : Entries) (hr : entries es = some r) :
    r.HoldRaw := by
  match es with
  | [] =>
      cases hr
      exact ⟨List.forall_mem_nil _, List.forall_mem_nil _⟩
  | (k, v) :: es =>
      rw [entries] at hr
      split at hr
      · obtain ⟨here, hhere, hr⟩ := Option.bind_eq_some_iff.mp hr
        obtain ⟨others, hothers, hr⟩ := Option.bind_eq_some_iff.mp hr
        obtain ⟨htaken, hown⟩ := holdRaw_entries es others hothers
        have hfirst : HoldsRaw here := holdsRaw_taken v here hhere
        cases hr
        exact ⟨hfirst.append htaken, hown⟩
      · obtain ⟨others, hothers, hr⟩ := Option.bind_eq_some_iff.mp hr
        obtain ⟨htaken, hown⟩ := holdRaw_entries es others hothers
        cases hr
        exact ⟨htaken, List.forall_mem_cons.mpr ⟨isRaw_build v, hown⟩⟩
termination_by structural es

theorem holdsRaw_taken (n : Node) (r : Staged (List (Value × Value))) (hr : taken n = some r) :
    HoldsRaw r := by
  match n with
  | .mapping tag es =>
      obtain ⟨all, hall, rfl⟩ := Option.map_eq_some_iff.mp hr
      exact (holdRaw_entries es all hall).all
  | .sequence tag items => exact holdsRaw_takenAll items r hr
  | .recursive =>
      cases hr
      exact List.forall_mem_nil _
  | .scalar .. => cases hr
termination_by structural n

theorem holdsRaw_takenAll (ns : List Node) (r : Staged (List (Value × Value)))
    (hr : takenAll ns = some r) : HoldsRaw r := by
  match ns with
  | [] =>
      cases hr
      exact List.forall_mem_nil _
  | .mapping tag es :: ns =>
      obtain ⟨here, hhere, hr⟩ := Option.bind_eq_some_iff.mp hr
      obtain ⟨others, hothers, hr⟩ := Option.bind_eq_some_iff.mp hr
      have hall := (holdRaw_entries es here hhere).all
      cases hr
      exact (holdsRaw_takenAll ns others hothers).append hall
  | .recursive :: ns => exact holdsRaw_takenAll ns r hr
  | .scalar .. :: _ | .sequence .. :: _ => cases hr
termination_by structural ns

end

theorem result_of_outcome {α : Type} {m : Staged α} {a : α} (h : m.outcome = .ok a) :
    m.result = a := by
  unfold Staged.outcome at h
  split at h
  · exact Except.ok.inj h
  · cases h

/-- Data that a text holds are raw. -/
theorem isRaw_of_read {text : String} {v : Value} (h : read text = .ok v) : v.IsRaw := by
  have hall := all_isAllowed_of_read fun hmalformed => nomatch hmalformed.symm.trans h
  rw [read_of_allowed hall] at h
  obtain ⟨n, -, h⟩ := Except.bind_eq_ok_iff.mp h
  cases n with
  | none =>
      rw [← Except.ok.inj h]
      exact .leaf rfl
  | some n =>
      rw [← result_of_outcome h]
      exact isRaw_build n

end Yaml

/-- Data that a file holds are raw. -/
theorem Rulebook.isRaw_of_dataOf {state : FileState} {v : Value} (h : dataOf state = .ok v) :
    v.IsRaw := by
  cases state with
  | absent | directory => cases h
  | file bytes =>
      simp only [dataOf] at h
      split at h
      case h_1 => cases h
      case h_2 s hs =>
        split at h
        case h_1 w hread =>
          rw [← Except.ok.inj h]
          split
          · exact .map (List.forall_mem_nil _)
          · exact Yaml.isRaw_of_read hread
        case h_2 => cases h
        case h_3 => cases h

end Qualify
