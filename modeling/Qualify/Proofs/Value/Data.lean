import Qualify.Value

/-!
# Data that are compared by running

Documents that are written hold nulls, truth values, numbers, texts, lists and mappings.  Two values
of these kinds are one value if running through both of them finds no difference
(`Value.eq_of_isSameData`).  This is stricter than the equality that conditions use: numbers of
different kinds differ, and so do entries in a different order.
-/

namespace Qualify.Value

mutual

/-- Are two values made of the same data in the same places?  Values of other kinds are not
compared. -/
def isSameData (v w : Value) : Bool :=
  match v, w with
  | .null, .null => true
  | .bool b, .bool c => b == c
  | .int n, .int m => n == m
  | .float x, .float y => x == y
  | .text s, .text t => s == t
  | .list xs, .list ys => areSameData xs ys
  | .map es, .map fs => haveSameData es fs
  | _, _ => false
termination_by structural v

def areSameData (xs ys : List Value) : Bool :=
  match xs, ys with
  | [], [] => true
  | x :: xs, y :: ys => isSameData x y && areSameData xs ys
  | _, _ => false
termination_by structural xs

def haveSameData (es fs : List (Value × Value)) : Bool :=
  match es, fs with
  | [], [] => true
  | (k, v) :: es, (l, w) :: fs => isSameData k l && isSameData v w && haveSameData es fs
  | _, _ => false
termination_by structural es

end

mutual

theorem eq_of_isSameData (v w : Value) (h : isSameData v w) : v = w := by
  unfold isSameData at h
  split at h
  case h_1 => rfl
  case h_6 xs ys => rw [eq_of_areSameData xs ys h]
  case h_7 es fs => rw [eq_of_haveSameData es fs h]
  case h_8 => cases h
  all_goals rw [eq_of_beq h]

theorem eq_of_areSameData (xs ys : List Value) (h : areSameData xs ys) : xs = ys := by
  unfold areSameData at h
  split at h
  case h_1 => rfl
  case h_2 x xs y ys =>
    obtain ⟨hx, hxs⟩ := Bool.and_eq_true_iff.mp h
    rw [eq_of_isSameData x y hx, eq_of_areSameData xs ys hxs]
  case h_3 => cases h

theorem eq_of_haveSameData (es fs : List (Value × Value)) (h : haveSameData es fs) : es = fs := by
  unfold haveSameData at h
  split at h
  case h_1 => rfl
  case h_2 k v es l w fs =>
    obtain ⟨hentry, hes⟩ := Bool.and_eq_true_iff.mp h
    obtain ⟨hk, hv⟩ := Bool.and_eq_true_iff.mp hentry
    rw [eq_of_isSameData k l hk, eq_of_isSameData v w hv, eq_of_haveSameData es fs hes]
  case h_3 => cases h

end

end Qualify.Value
