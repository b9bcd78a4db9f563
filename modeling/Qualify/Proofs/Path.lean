import Mathlib.Data.List.TakeWhile
import Qualify.Path
import Qualify.Proofs.Except
import Qualify.Proofs.Text.Pieces
import Qualify.Proofs.Value.Parts

/-!
# Which paths lead somewhere

A segment of digits is a position, whatever kind of digits it has, but it denotes a number only if
all of them are decimal and there are not too many (`exists_position_iff`).  Nothing else about a
path or about the value that it starts from can go wrong.  So a path leads to a value, be it null,
exactly when its walk comes to no list or tuple with a position that denotes no number
(`Value.exists_resolve_iff`).
-/

namespace Qualify

/-- The digits of the segment all have a decimal value, and can be read as one number. -/
structure IsNumber (segment : List Char) : Prop where
  decimal : ∀ c ∈ segment, Text.isDecimalDigit c = true
  short : segment.length ≤ digitLimit

variable {segment : List Char} {f : Failure}

/-- A segment denotes a number exactly when it has decimal digits only, and few enough of them. -/
theorem exists_position_iff : (∃ n, position segment = .ok n) ↔ IsNumber segment := by
  have hle : (segment.takeWhile Text.isDecimalDigit).length ≤ segment.length :=
    (List.takeWhile_prefix _).length_le
  have hall : (segment.takeWhile Text.isDecimalDigit).length = segment.length ↔
      ∀ c ∈ segment, Text.isDecimalDigit c = true := by
    rw [← List.takeWhile_eq_self_iff]
    exact ⟨(List.takeWhile_prefix _).eq_of_length, congrArg List.length⟩
  unfold position
  dsimp only
  split
  · case isTrue hlong =>
      refine iff_of_false (fun ⟨n, hn⟩ => nomatch hn) fun h => ?_
      exact absurd (Nat.lt_of_lt_of_le hlong hle) (Nat.not_lt.mpr h.short)
  · case isFalse hshort =>
      split
      · case isTrue heq =>
          refine iff_of_true ⟨_, rfl⟩ ⟨hall.mp heq, ?_⟩
          rw [← heq]
          exact Nat.not_lt.mp hshort
      · case isFalse hne =>
          exact iff_of_false (fun ⟨n, hn⟩ => nomatch hn) fun h => hne (hall.mpr h.decimal)

/-- What denotes no number is reported as a wrong value. -/
theorem kind_of_position (h : position segment = .error f) : f.kind = "ValueError" := by
  unfold position at h
  dsimp only at h
  split at h
  · cases h
    rfl
  · split at h
    · cases h
    · cases h
      rfl

/-- The cells hold containers and no bare references to other cells. -/
def Cells.HoldContainers (cells : Cells) : Prop := ∀ v ∈ cells, ∀ n, v ≠ .shared n

namespace Cells

variable {cells : Cells}

/-- A reference leads to a container, not to another reference. -/
theorem HoldContainers.deref_deref (h : cells.HoldContainers) (v : Value) :
    cells.deref (cells.deref v) = cells.deref v := by
  cases v with
  | shared n =>
      apply Value.deref_of_not_shared
      intro m
      show cells.getD n .null ≠ .shared m
      rw [List.getD_eq_getElem?_getD]
      cases hn : cells[n]? with
      | none => exact nofun
      | some w => exact h w (List.mem_of_getElem? hn) m
  | _ => rfl

end Cells

namespace Value

variable {cells : Cells} {v w root : Value} {path : String}

/-- Is the value one whose items have positions? -/
def isSequence : Value → Bool
  | .list _ | .tuple _ => true
  | _ => false

/-- A step fails only into a list or tuple, and there only at a position without a number. -/
theorem step_eq_error_iff :
    v.step cells segment = .error f ↔
      v.isSequence = true ∧ isPosition segment = true ∧ position segment = .error f := by
  cases v with
  | list xs | tuple xs =>
      by_cases h : isPosition segment = true
      · simp only [step, if_pos h, Except.bind_eq_error_iff, Except.pure_ne_error]
        simp [isSequence, h]
      · simp [step, h, isSequence]
  | _ => simp [step, isSequence]

/-! ## Walks -/

theorem isNull_iff : v.isNull = true ↔ v = .null := by
  cases v with
  | null => exact iff_of_true rfl rfl
  | _ => exact iff_of_false nofun nofun

theorem walk_null (segments : List (List Char)) : Value.null.walk cells segments = .ok .null := by
  cases segments with
  | nil => rfl
  | cons s rest => rfl

/-- A walk along two paths, one behind the other, goes on where the first of them ends. -/
theorem walk_append (before after : List (List Char)) :
    v.walk cells (before ++ after) = v.walk cells before >>= fun w => w.walk cells after := by
  induction before generalizing v with
  | nil => rfl
  | cons s before ih =>
      rw [List.cons_append, walk_cons, walk_cons]
      split
      · exact (walk_null after).symm
      · rw [bind_assoc]
        exact congrArg _ (funext fun w => ih)

/-- A walk fails at the first step that does. -/
theorem walk_eq_error_iff {segments : List (List Char)} :
    v.walk cells segments = .error f ↔ ∃ before s after w, segments = before ++ s :: after ∧
      v.walk cells before = .ok w ∧ w.step cells s = .error f := by
  constructor
  · intro h
    induction segments generalizing v with
    | nil => cases h
    | cons s rest ih =>
        rw [walk_cons] at h
        split at h
        · cases h
        · case isFalse hnull =>
            rcases Except.bind_eq_error_iff.mp h with hstep | ⟨w, hstep, hrest⟩
            · exact ⟨[], s, rest, v, rfl, rfl, hstep⟩
            · obtain ⟨before, t, after, x, rfl, hwalk, hfails⟩ := ih hrest
              refine ⟨s :: before, t, after, x, rfl, ?_, hfails⟩
              rw [walk_cons, if_neg hnull, hstep]
              exact hwalk
  · rintro ⟨before, s, after, w, rfl, hwalk, hstep⟩
    rw [walk_append, hwalk, Except.ok_bind, walk_cons]
    split
    · case isTrue hnull =>
        rw [isNull_iff.mp hnull] at hstep
        cases hstep
    · rw [hstep]
      rfl

/-! ## Paths -/

/-- A path that goes on behind another has the segments of both, whatever stands in them. -/
theorem segments_append (p q : String) : segments (p ++ "." ++ q) = segments p ++ segments q := by
  have hchars : (p ++ "." ++ q).toList = p.toList ++ '.' :: q.toList := by
    rw [String.toList_append, String.toList_append, List.append_assoc]
    rfl
  rw [segments, hchars]
  exact Text.splitOn_append '.' p.toList q.toList

/-- Where the paths of a value start from. -/
def origin (cells : Cells) (root : Value) : Value := (cells.deref root).attributes

theorem resolve_eq_walk (h : path ≠ "") :
    root.resolve cells path = (origin cells root).walk cells (segments path) :=
  if_neg h

/-- The empty path fails where the walk along its one segment does, which is nowhere. -/
theorem resolve_eq_error_iff :
    root.resolve cells path = .error f ↔
      (origin cells root).walk cells (segments path) = .error f := by
  unfold resolve
  split
  · case isTrue hempty =>
      have hsegments : segments path = [[]] := by rw [hempty]; rfl
      refine iff_of_false (fun h => nomatch h) fun h => ?_
      rw [hsegments] at h
      obtain ⟨before, s, after, w, heq, -, hstep⟩ := walk_eq_error_iff.mp h
      obtain rfl : s = [] := List.mem_singleton.mp (heq ▸ List.mem_append_cons_self)
      cases (step_eq_error_iff.mp hstep).2.1
  · rfl

/-- The walk along the path comes to a list or tuple, and the next segment is a position. -/
def ComesToPosition (cells : Cells) (root : Value) (path : String) (s : List Char) : Prop :=
  ∃ before after w, segments path = before ++ s :: after ∧
    (origin cells root).walk cells before = .ok w ∧ w.isSequence = true ∧ isPosition s = true

/-- A path leads to a value exactly when every position that its walk comes to denotes a number, and
is refused as a wrong value otherwise. -/
theorem exists_resolve_iff (cells : Cells) (root : Value) (path : String) :
    ((∃ v, root.resolve cells path = .ok v) ↔
      ∀ s, ComesToPosition cells root path s → IsNumber s) ∧
    ∀ f, root.resolve cells path = .error f → f.kind = "ValueError" := by
  have herror : ∀ f, root.resolve cells path = .error f ↔
      ∃ s, ComesToPosition cells root path s ∧ position s = .error f := by
    intro f
    rw [resolve_eq_error_iff, walk_eq_error_iff]
    simp only [step_eq_error_iff]
    constructor
    · rintro ⟨before, s, after, w, heq, hwalk, hsequence, hposition, hfails⟩
      exact ⟨s, ⟨before, after, w, heq, hwalk, hsequence, hposition⟩, hfails⟩
    · rintro ⟨s, ⟨before, after, w, heq, hwalk, hsequence, hposition⟩, hfails⟩
      exact ⟨before, s, after, w, heq, hwalk, hsequence, hposition, hfails⟩
  constructor
  · constructor
    · rintro ⟨v, hv⟩ s hs
      refine exists_position_iff.mp ?_
      cases hposition : position s with
      | ok n => exact ⟨n, rfl⟩
      | error f => exact nomatch hv.symm.trans ((herror f).mpr ⟨s, hs, hposition⟩)
    · intro h
      cases hresolve : root.resolve cells path with
      | ok v => exact ⟨v, rfl⟩
      | error f =>
          obtain ⟨s, hs, hfails⟩ := (herror f).mp hresolve
          obtain ⟨n, hn⟩ := exists_position_iff.mpr (h s hs)
          exact nomatch hn.symm.trans hfails
  · intro f hf
    obtain ⟨s, -, hfails⟩ := (herror f).mp hf
    exact kind_of_position hfails

/-- A superscript two is a digit, and no position in a list. -/
theorem resolve_superscript_fails :
    (Value.map [(.text "items", .list [.int 1])]).resolve [] "items.²" =
      .error (.noInteger 10 "'²'") := by
  rfl

end Value

end Qualify
