import Mathlib.Data.List.Sort
import Qualify.Proofs.Yaml.Node
import Qualify.Yaml.Data

/-!
# What can be wrong with data

Building the data of a node goes wrong, apart from complaints about the format, only where a reader
of truth values, numbers or dates refuses the text of a scalar within the node (`Node.Refuses`,
`build_fails`); a mapping that has one of their tags is read by its default.  With what can be wrong
with tokens, this is everything besides the format that comes out of a text (`Escapes`,
`read_eq_error_iff`).
-/

namespace Qualify.Yaml

/-! ## Building in stages -/

namespace Staged

variable {α β : Type} {P : Fault → Prop}

/-- Whatever goes wrong at any stage is of this kind. -/
def Fails (P : Fault → Prop) (m : Staged α) : Prop := ∀ f ∈ m.faults.flatten, P f

theorem mem_flatten_beside {f : Fault} {xs ys : List (List Fault)} :
    f ∈ (beside xs ys).flatten ↔ f ∈ xs.flatten ∨ f ∈ ys.flatten := by
  fun_induction beside xs ys with
  | case1 ys => simp
  | case2 xs => simp
  | case3 x xs y ys ih =>
      simp only [List.flatten_cons, List.mem_append, ih]
      exact or_or_or_comm

theorem fails_pure (a : α) : Fails P (pure a : Staged α) := nofun

theorem fails_fail [Inhabited α] {f : Fault} (h : P f) : Fails P (fail f : Staged α) := by
  intro g hg
  obtain rfl : g = f := by simpa [fail] using hg
  exact h

theorem Fails.bind {m : Staged α} {k : α → Staged β} (hm : m.Fails P) (hk : ∀ a, (k a).Fails P) :
    (m >>= k).Fails P :=
  fun f hf => (mem_flatten_beside.mp hf).elim (hm f) (hk m.result f)

theorem Fails.map {m : Staged α} {g : α → β} (hm : m.Fails P) : (g <$> m).Fails P :=
  hm.bind fun _ => fails_pure _

theorem Fails.later {m : Staged α} (hm : m.Fails P) : m.later.Fails P := hm

theorem fails_ofExcept [Inhabited α] {x : Except Fault α} (h : Yaml.Fails P x) :
    (ofExcept x).Fails P := by
  cases x with
  | ok a => exact fails_pure a
  | error f => exact fails_fail (h f rfl)

theorem outcome_eq_error_iff {m : Staged α} {f : Fault} :
    m.outcome = .error f ↔ m.faults.flatten.head? = some f := by
  unfold outcome
  split
  case h_1 h => simp [h]
  case h_2 g gs h => simp [h]

theorem Fails.outcome {m : Staged α} (hm : m.Fails P) : Yaml.Fails P m.outcome :=
  fun f hf => hm f (List.mem_of_mem_head? (outcome_eq_error_iff.mp hf))

end Staged

/-! ## What scalars refuse -/

theorem binary_fails (s : String) : Fails (· = .malformed) (binary s) := by
  unfold binary
  grind

/-- Only the readers of truth values, numbers and dates refuse a text that is well-formed. -/
theorem scalarValue_eq_error {tag : Tag} {s : String} {f : Fault}
    (h : scalarValue tag s = .error f) (hf : f ≠ .malformed) :
    tag = .bool ∨ tag = .int ∨ tag = .float ∨ tag = .timestamp := by
  cases tag with
  | bool | int | float | timestamp => simp
  | binary => exact absurd (binary_fails s f h) hf
  | null | text => cases h
  | omap | pairs | set | sequence | mapping | merge | value | unknown =>
      exact absurd (Except.error.inj h).symm hf

namespace Node

/-- A node stands within another one, or is it. -/
inductive Has : Node → Node → Prop where
  | self (n : Node) : Has n n
  | item {tag : Tag} {ns : List Node} {n m : Node} (hn : n ∈ ns) (h : n.Has m) :
      Has (sequence tag ns) m
  | key {tag : Tag} {es : List (Node × Node)} {e : Node × Node} {m : Node} (he : e ∈ es)
      (h : e.1.Has m) : Has (mapping tag es) m
  | value {tag : Tag} {es : List (Node × Node)} {e : Node × Node} {m : Node} (he : e ∈ es)
      (h : e.2.Has m) : Has (mapping tag es) m

/-- A node by itself denotes no value for this reason. -/
inductive Refuses : Node → Fault → Prop where
  | scalar {tag : Tag} {s : String} {f : Fault} (h : scalarValue tag s = .error f) :
      Refuses (scalar tag s) f
  | default {tag : Tag} {es : List (Node × Node)} {s : String} {f : Fault}
      (hs : defaultText? es = some s) (h : scalarValue tag s = .error f) :
      Refuses (mapping tag es) f
  | date {es : List (Node × Node)} {s : String} (hs : defaultText? es = some s) :
      Refuses (mapping .timestamp es) .noDateText

theorem Refuses.tag {n : Node} {f : Fault} (h : n.Refuses f) (hf : f ≠ .malformed) :
    n.tag = some .bool ∨ n.tag = some .int ∨ n.tag = some .float ∨ n.tag = some .timestamp := by
  cases h with
  | scalar h => simpa [Node.tag] using scalarValue_eq_error h hf
  | default _ h => simpa [Node.tag] using scalarValue_eq_error h hf
  | date => simp [Node.tag]

/-- Whatever the scalars in a node refuse is of this kind. -/
def RefusesOnly (P : Fault → Prop) (n : Node) : Prop := ∀ m, n.Has m → ∀ f, m.Refuses f → P f

variable {P : Fault → Prop} {tag : Tag} {ns : List Node} {es : List (Node × Node)}

theorem RefusesOnly.item (h : (sequence tag ns).RefusesOnly P) : ∀ n ∈ ns, n.RefusesOnly P :=
  fun _ hn m hm => h m (.item hn hm)

theorem RefusesOnly.entry (h : (mapping tag es).RefusesOnly P) :
    ∀ e ∈ es, e.1.RefusesOnly P ∧ e.2.RefusesOnly P :=
  fun _ he => ⟨fun m hm => h m (.key he hm), fun m hm => h m (.value he hm)⟩

end Node

/-! ## Building -/

section Building

variable {P : Fault → Prop}

theorem malformedAs_fails (hP : P .malformed) (tag : Tag) : (malformedAs tag).Fails P := by
  unfold malformedAs
  split
  · exact (Staged.fails_fail hP).later
  · exact Staged.fails_fail hP

theorem asKey_fails (hP : P .malformed) {k : Staged Value} (h : k.Fails P) : (asKey k).Fails P := by
  refine h.bind fun v => ?_
  split
  · exact Staged.fails_fail hP
  · exact Staged.fails_pure v

theorem defaultKey_fails (hP : P .malformed) (text : Option String) :
    (defaultKey text).Fails P := by
  cases text with
  | none => exact Staged.fails_fail hP
  | some s => exact Staged.fails_pure _

theorem defaultValue_fails (hP : P .malformed) {tag : Tag} {es : List (Node × Node)}
    (h : (Node.mapping tag es).RefusesOnly P) :
    (defaultValue tag (Node.defaultText? es)).Fails P := by
  have hself := h _ (.self _)
  cases hs : Node.defaultText? es with
  | none => exact Staged.fails_fail hP
  | some s =>
      rw [defaultValue]
      split
      case isTrue htag =>
        subst htag
        exact Staged.fails_fail (hself _ (.date hs))
      case isFalse => exact Staged.fails_ofExcept fun f hf => hself f (.default hs hf)

/-- All entries of a mapping are built so. -/
structure Entries.Fails (P : Fault → Prop) (es : Entries) : Prop where
  taken : es.taken.Fails P
  own : es.own.Fails P

theorem Entries.Fails.all {es : Entries} (h : es.Fails P) : es.all.Fails P :=
  h.taken.bind fun _ => h.own.bind fun _ => Staged.fails_pure _

theorem entriesOr_fails (hP : P .malformed) {es : Option Entries}
    (h : ∀ r, es = some r → r.Fails P) : (entriesOr es).Fails P := by
  cases es with
  | none => exact Staged.fails_fail hP
  | some r => exact (h r rfl).all

mutual

theorem build_fails (hP : P .malformed) (n : Node) (h : n.RefusesOnly P) : (build n).Fails P := by
  match n with
  | .scalar tag s =>
      rw [build]
      split
      · exact malformedAs_fails hP tag
      · exact Staged.fails_ofExcept fun f hf => h _ (.self _) f (.scalar hf)
  | .sequence tag items =>
      rw [build]
      split
      · exact (buildAll_fails hP items h.item).map.later
      split
      · exact (buildPairs_fails hP items h.item).map.later
      · exact malformedAs_fails hP tag
  | .mapping tag es =>
      have hes := entriesOr_fails hP (entries_fails hP es h.entry)
      rw [build]
      split
      · exact hes.map.later
      split
      · exact hes.map.later
      split
      · exact malformedAs_fails hP tag
      · exact defaultValue_fails hP h
  | .recursive => exact Staged.fails_pure _
termination_by structural n

theorem buildAll_fails (hP : P .malformed) (ns : List Node) (h : ∀ n ∈ ns, n.RefusesOnly P) :
    (buildAll ns).Fails P := by
  match ns with
  | [] => exact Staged.fails_pure _
  | n :: ns =>
      have ⟨hn, hns⟩ := List.forall_mem_cons.mp h
      exact (build_fails hP n hn).bind fun _ => (buildAll_fails hP ns hns).bind fun _ =>
        Staged.fails_pure _
termination_by structural ns

theorem buildPairs_fails (hP : P .malformed) (ns : List Node) (h : ∀ n ∈ ns, n.RefusesOnly P) :
    (buildPairs ns).Fails P := by
  match ns with
  | [] => exact Staged.fails_pure _
  | .mapping tag [(k, v)] :: ns =>
      have ⟨hn, hns⟩ := List.forall_mem_cons.mp h
      have ⟨hk, hv⟩ := hn.entry _ (.head _)
      exact (build_fails hP k hk).bind fun _ => (build_fails hP v hv).bind fun _ =>
        (buildPairs_fails hP ns hns).bind fun _ => Staged.fails_pure _
  | .scalar .. :: _ | .sequence .. :: _ | .recursive :: _ | .mapping _ [] :: _
  | .mapping _ (_ :: _ :: _) :: _ => exact Staged.fails_fail hP
termination_by structural ns

theorem entries_fails (hP : P .malformed) (es : List (Node × Node))
    (h : ∀ e ∈ es, e.1.RefusesOnly P ∧ e.2.RefusesOnly P) (r : Entries)
    (hr : entries es = some r) : r.Fails P := by
  match es with
  | [] =>
      cases hr
      exact ⟨Staged.fails_pure _, Staged.fails_pure _⟩
  | (k, v) :: es =>
      have ⟨⟨hk, hv⟩, hes⟩ := List.forall_mem_cons.mp h
      rw [entries] at hr
      split at hr
      · obtain ⟨here, hhere, hr⟩ := Option.bind_eq_some_iff.mp hr
        obtain ⟨others, hothers, hr⟩ := Option.bind_eq_some_iff.mp hr
        obtain ⟨taken, own⟩ := entries_fails hP es hes others hothers
        have hfirst : here.Fails P := taken_fails hP v hv here hhere
        cases hr
        exact ⟨hfirst.bind fun _ => taken.bind fun _ => Staged.fails_pure _, own⟩
      · obtain ⟨others, hothers, hr⟩ := Option.bind_eq_some_iff.mp hr
        obtain ⟨taken, own⟩ := entries_fails hP es hes others hothers
        have hkey :
            (asKey (if k.tag = some .value then defaultKey k.text? else build k)).Fails P := by
          refine asKey_fails hP ?_
          split
          · exact defaultKey_fails hP _
          · exact build_fails hP k hk
        cases hr
        exact ⟨taken, hkey.bind fun _ => (build_fails hP v hv).bind fun _ => own.bind fun _ =>
          Staged.fails_pure _⟩
termination_by structural es

theorem taken_fails (hP : P .malformed) (n : Node) (h : n.RefusesOnly P)
    (r : Staged (List (Value × Value))) (hr : taken n = some r) : r.Fails P := by
  match n with
  | .mapping tag es =>
      obtain ⟨all, hall, rfl⟩ := Option.map_eq_some_iff.mp hr
      exact (entries_fails hP es h.entry all hall).all
  | .sequence tag items => exact takenAll_fails hP items h.item r hr
  | .recursive =>
      cases hr
      exact Staged.fails_pure _
  | .scalar .. => cases hr
termination_by structural n

theorem takenAll_fails (hP : P .malformed) (ns : List Node) (h : ∀ n ∈ ns, n.RefusesOnly P)
    (r : Staged (List (Value × Value))) (hr : takenAll ns = some r) : r.Fails P := by
  match ns with
  | [] =>
      cases hr
      exact Staged.fails_pure _
  | .mapping tag es :: ns =>
      have ⟨hn, hns⟩ := List.forall_mem_cons.mp h
      obtain ⟨here, hhere, hr⟩ := Option.bind_eq_some_iff.mp hr
      obtain ⟨others, hothers, hr⟩ := Option.bind_eq_some_iff.mp hr
      have hall := (entries_fails hP es hn.entry here hhere).all
      cases hr
      exact (takenAll_fails hP ns hns others hothers).bind fun _ => hall.bind fun _ =>
        Staged.fails_pure _
  | .recursive :: ns => exact takenAll_fails hP ns (List.forall_mem_cons.mp h).2 r hr
  | .scalar .. :: _ | .sequence .. :: _ => cases hr
termination_by structural ns

end

end Building

theorem read_of_allowed {text : String} (h : text.toList.all isAllowed) :
    read text = nodeOf text.toList >>= fun
      | none => .ok .null
      | some n => (build n).outcome := by
  simp only [read, h]
  rfl

/-- A text that is not malformed has allowed characters only. -/
theorem all_isAllowed_of_read {text : String} (h : read text ≠ .error .malformed) :
    text.toList.all isAllowed := by
  cases hall : text.toList.all isAllowed with
  | true => rfl
  | false =>
      refine absurd ?_ h
      simp only [read, hall]
      rfl

theorem read_of_tokens {text : String} {ts : List Token} (h : text.toList.all isAllowed)
    (hts : tokens text.toList = (ts, none)) :
    read text = (Compose.document.run' { tokens := ts, fault := none } >>= fun
      | none => .ok .null
      | some n => (build n).outcome) := by
  rw [read_of_allowed h, nodeOf, hts]

/-- The tokens with the keys in the order in which they were found. -/
def Lexer.keyed (s : Lexer) : List Token := withKeys 0 s.found.reverse s.tokens.toList

/-- The data that these tokens denote. -/
def Lexer.data (s : Lexer) : Except Fault Value :=
  Compose.document.run' { tokens := s.keyed, fault := none } >>= fun
    | none => .ok .null
    | some n => (build n).outcome

/-- Keys that were found from the last one to the first come in order when they are turned around. -/
theorem mergeSort_eq_reverse {keys : List (Nat × Bool)}
    (h : keys.Pairwise fun a b => b.1 < a.1) :
    keys.mergeSort (fun a b => a.1 ≤ b.1) = keys.reverse := by
  have hnodup : (keys.map Prod.fst).Nodup := List.pairwise_map.mpr (h.imp fun h => h.ne')
  have hreverse : keys.reverse.Pairwise fun a b => a.1 ≤ b.1 :=
    List.pairwise_reverse.mpr (h.imp Nat.le_of_lt)
  refine List.Perm.eq_of_pairwise ?_
    (List.pairwise_mergeSort' (Order.Preimage Prod.fst (· ≤ ·)) keys) hreverse
    ((List.mergeSort_perm _ _).trans (List.reverse_perm _).symm)
  intro a b ha hb hab hba
  exact List.inj_on_of_nodup_map hnodup (List.mem_mergeSort.mp ha) (List.mem_reverse.mp hb)
    (Nat.le_antisymm hab hba)

/-- A text whose keys were found from the first one to the last is read without sorting them. -/
theorem read_of_scan {cs : List Char} {r : Lexer × Option Fault}
    (hscan : Lexer.scan (cs.length + 1) { cursor := { rest := cs } } = r) (h : cs.all isAllowed)
    (hfault : r.2 = none) (hfound : r.1.found.Pairwise fun a b => b.1 < a.1) :
    read (String.ofList cs) = r.1.data := by
  obtain ⟨s, fault⟩ := r
  subst hfault
  have htokens : tokens cs = (s.keyed, none) := by
    rw [tokens, hscan, Lexer.keyed, ← mergeSort_eq_reverse hfound]
    rfl
  rw [← String.toList_ofList (l := cs)] at h htokens
  exact read_of_tokens h htokens

end Qualify.Yaml
