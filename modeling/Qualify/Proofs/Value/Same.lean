import Qualify.Proofs.Lead.Plain

/-!
# Equality of plain data

Looking at a value can fail only where it refuses comparison or is a signaling decimal, and plain
data hold neither.  So two plain values are equal or they are not (`Value.IsPlain.exists_same`).
-/

namespace Qualify.Value

variable {cells : Cells} {a b v : Value} {xs ys : List Value} {es fs : List (Value × Value)}

theorem IsPlain.deref_eq (h : v.IsPlain) (cells : Cells) : cells.deref v = v := by
  cases h with
  | _ => rfl

/-! ## Scalars -/

theorem isSignaling_ofInt (n : Int) : (Decimal.ofInt n).isSignaling = false := rfl

theorem isSignaling_toDecimal (x : Binary64) : x.toDecimal.isSignaling = false := by
  unfold Binary64.toDecimal
  split
  · rfl
  · rfl
  · split
    · rfl
    · rfl

theorem IsPlain.isSignaling_number (h : v.IsPlain) {d : Decimal} (hd : v.number? = some d) :
    d.isSignaling = false := by
  cases h with
  | bool b | int n =>
      cases hd
      exact isSignaling_ofInt _
  | float x =>
      cases hd
      exact isSignaling_toDecimal x
  | _ => cases hd

theorem exists_sameNumber {x y : Decimal} (hx : x.isSignaling = false)
    (hy : y.isSignaling = false) : ∃ r, sameNumber x y = .ok r := by
  simp [sameNumber, hx, hy]

theorem IsPlain.exists_sameAtom (ha : a.IsPlain) (hb : b.IsPlain) :
    ∃ r, sameAtom a b = .ok r := by
  cases ha with
  | _ =>
      cases hb with
      | _ => exact ⟨_, rfl⟩

/-- Two plain values of which the second holds no values: by their numbers if both have one. -/
theorem IsPlain.exists_sameScalar (ha : a.IsPlain) (hb : b.IsPlain) :
    ∃ r, (match a.number?, b.number? with
      | some x, some y => sameNumber x y
      | _, _ => sameAtom a b) = .ok r := by
  split
  · case h_1 hx hy => exact exists_sameNumber (ha.isSignaling_number hx) (hb.isSignaling_number hy)
  · exact ha.exists_sameAtom hb

/-! ## Collections -/

theorem exists_sameItems (hxs : ∀ x ∈ xs, x.IsPlain)
    (hys : ∀ y ∈ ys, ∀ x : Value, x.IsPlain → ∃ r, x.same cells y = .ok r) :
    ∃ r, sameItems cells xs ys = .ok r := by
  induction ys generalizing xs with
  | nil => cases xs <;> exact ⟨_, rfl⟩
  | cons y ys ih =>
      cases xs with
      | nil => exact ⟨_, rfl⟩
      | cons x xs =>
          rw [List.forall_mem_cons] at hxs hys
          obtain ⟨r, hr⟩ := hys.1 x hxs.1
          rw [sameItems, hr, Except.ok_bind]
          cases r with
          | true => exact ih hxs.2 hys.2
          | false => exact ⟨false, rfl⟩

theorem exists_sameEntry (key : Value) (hv : v.IsPlain)
    (hfs : ∀ f ∈ fs, ∀ x : Value, x.IsPlain → ∃ r, x.same cells f.2 = .ok r) :
    ∃ r, sameEntry cells key v fs = .ok r := by
  induction fs with
  | nil => exact ⟨_, rfl⟩
  | cons f fs ih =>
      rw [List.forall_mem_cons] at hfs
      rw [sameEntry]
      split
      · exact hfs.1 v hv
      · exact ih hfs.2

theorem exists_foldlM_sameEntry (hes : ∀ e ∈ es, e.2.IsPlain)
    (hfs : ∀ f ∈ fs, ∀ x : Value, x.IsPlain → ∃ r, x.same cells f.2 = .ok r) (ok : Bool) :
    ∃ r, es.foldlM (fun ok e => if ok then sameEntry cells e.1 e.2 fs else .ok false) ok
      = .ok r := by
  induction es generalizing ok with
  | nil => exact ⟨ok, rfl⟩
  | cons e es ih =>
      rw [List.forall_mem_cons] at hes
      rw [List.foldlM_cons]
      cases ok with
      | false => exact ih hes.2 false
      | true =>
          obtain ⟨r, hr⟩ := exists_sameEntry e.1 hes.1 hfs
          rw [if_pos rfl, hr]
          exact ih hes.2 r

/-- Two values made of plain data are equal or they are not. -/
theorem IsPlain.exists_same (ha : a.IsPlain) (hb : b.IsPlain) (cells : Cells) :
    ∃ r, a.same cells b = .ok r := by
  induction hb generalizing a with
  | null | bool _ | int _ | float _ | text _ =>
      rw [same, ha.deref_eq]
      · exact ha.exists_sameScalar (by constructor)
      all_goals exact nofun
  | list hys ih =>
      rw [same, ha.deref_eq]
      cases ha with
      | list hxs =>
          dsimp only
          split
          · exact exists_sameItems hxs fun y hy x hx => ih y hy hx
          · exact ⟨false, rfl⟩
      | _ => exact ⟨false, rfl⟩
  | map hfs ih =>
      rw [same, ha.deref_eq]
      cases ha with
      | map hes =>
          dsimp only
          split
          · exact exists_foldlM_sameEntry hes (fun f hf x hx => ih f hf hx) true
          · exact ⟨false, rfl⟩
      | _ => exact ⟨false, rfl⟩

end Qualify.Value
