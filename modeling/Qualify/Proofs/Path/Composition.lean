import Qualify.Proofs.Path

/-!
# Paths one behind the other

The segments of two paths with a dot between them are those of the one and then those of the other,
whatever stands in them, so the walk along both goes on where the walk along the first one ends.
From there it goes on as a path of its own would (`Value.resolve_append`), unless it ended at a
lead: a path that starts at a lead starts at its attributes, while one that comes through a lead
finds nothing in it.
-/

namespace Qualify

namespace Value

variable {cells : Cells} {v w root : Value}

def isLead : Value → Bool
  | .lead .. => true
  | _ => false

theorem attributes_of_isLead_eq_false (h : v.isLead = false) : v.attributes = v := by
  cases v with
  | lead => cases h
  | _ => rfl

/-! ## What a walk comes to stands for itself -/

theorem deref_step (hcells : cells.HoldContainers) {s : List Char} (h : v.step cells s = .ok w) :
    cells.deref w = w := by
  cases v with
  | map es =>
      cases h
      exact hcells.deref_deref _
  | list xs | tuple xs =>
      rw [step] at h
      split at h
      · obtain ⟨n, -, hn⟩ := Except.bind_eq_ok_iff.mp h
        cases hn
        exact hcells.deref_deref _
      · cases h
        rfl
  | _ =>
      cases h
      rfl

theorem deref_walk (hcells : cells.HoldContainers) (hv : cells.deref v = v)
    {segments : List (List Char)} (h : v.walk cells segments = .ok w) : cells.deref w = w := by
  induction segments generalizing v with
  | nil =>
      cases h
      exact hv
  | cons s rest ih =>
      rw [walk_cons] at h
      split at h
      · cases h
        rfl
      · obtain ⟨x, hstep, hrest⟩ := Except.bind_eq_ok_iff.mp h
        exact ih (deref_step hcells hstep) hrest

theorem deref_origin (hcells : cells.HoldContainers) (root : Value) :
    cells.deref (origin cells root) = origin cells root := by
  cases hlead : (cells.deref root).isLead with
  | false =>
      rw [origin, attributes_of_isLead_eq_false hlead]
      exact hcells.deref_deref root
  | true =>
      rw [origin]
      cases hroot : cells.deref root with
      | lead => rfl
      | _ =>
          rw [hroot] at hlead
          cases hlead

/-! ## Two paths -/

/-- A path that goes on behind another leads where it leads from the end of that, fails as it fails
there, and finds nothing behind a path that found nothing. -/
theorem resolve_append (hcells : cells.HoldContainers) (root : Value) {p q : String} (hp : p ≠ "")
    (hq : q ≠ "") (hlead : ∀ v, root.resolve cells p = .ok v → v.isLead = false) :
    root.resolve cells (p ++ "." ++ q) = (root.resolve cells p >>= fun v => v.resolve cells q) ∧
      (root.resolve cells p = .ok .null → root.resolve cells (p ++ "." ++ q) = .ok .null) := by
  have hboth : p ++ "." ++ q ≠ "" := by
    intro h
    have hlist := congrArg String.toList h
    rw [String.toList_append] at hlist
    exact hq (String.toList_inj.mp (List.append_eq_nil_iff.mp hlist).2)
  have happend : root.resolve cells (p ++ "." ++ q) =
      (root.resolve cells p >>= fun v => v.resolve cells q) := by
    rw [resolve_eq_walk hboth, segments_append, walk_append, resolve_eq_walk hp]
    cases hwalk : (origin cells root).walk cells (segments p) with
    | error f => rfl
    | ok v =>
        have hderef : cells.deref v = v := deref_walk hcells (deref_origin hcells root) hwalk
        have hv : v.isLead = false := hlead v ((resolve_eq_walk hp).trans hwalk)
        show v.walk cells (segments q) = v.resolve cells q
        rw [resolve_eq_walk hq, origin, hderef, attributes_of_isLead_eq_false hv]
  refine ⟨happend, fun hnull => ?_⟩
  rw [happend, hnull, Except.ok_bind, resolve_eq_walk hq]
  exact walk_null (segments q)

/-- Through a mapping that holds itself, and out of it at an item of a list. -/
theorem resolve_append_loop :
    let loop : Cells := [.map [(.text "self", .shared 0), (.text "items", .list [.int 1, .int 2])]]
    (Value.shared 0).resolve loop ("self.self" ++ "." ++ "items.1") = .ok (.int 2) := by
  intro loop
  have hcells : loop.HoldContainers := by
    intro v hv n
    rw [List.mem_singleton.mp hv]
    exact nofun
  have hself : (Value.shared 0).resolve loop "self.self" = .ok (loop.deref (.shared 0)) := rfl
  have hlead : ∀ v, (Value.shared 0).resolve loop "self.self" = .ok v → v.isLead = false := by
    intro v hv
    cases hself.symm.trans hv
    rfl
  rw [(resolve_append hcells (.shared 0) (by decide) (by decide) hlead).1, hself]
  rfl

end Value

end Qualify
