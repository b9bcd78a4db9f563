import Qualify.Proofs.Except
import Qualify.Proofs.Value.Parts
import Qualify.Value.Text

/-!
# Which values have a text

The text of an integer exists up to a limit of digits, and nothing else about a value can stop it
from being written.  So a value has a text exactly when no integer in it, at whatever depth, is past
that limit (`Value.exists_toText_iff`), and that is what is said of it where it has none
(`Value.toText_eq_error_iff`).
-/

namespace Qualify

/-- The text of an integer exists exactly within the limit of digits. -/
theorem exists_integerText_iff {n : Int} :
    (∃ s, integerText n = .ok s) ↔ n.natAbs < tenTo digitLimit := by
  unfold integerText
  split
  · case isTrue h => exact ⟨fun _ => h, fun _ => ⟨_, rfl⟩⟩
  · case isFalse h => exact ⟨fun ⟨_, hs⟩ => (nomatch hs), fun h' => absurd h' h⟩

/-- Nothing but an integer that is too long stands in the way of a text. -/
def StopsAtLongInteger {α : Type} (x : Except Failure α) : Prop :=
  ∀ f, x = .error f → f = .longInteger

namespace StopsAtLongInteger

variable {α β : Type} {x : Except Failure α}

theorem ok (a : α) : StopsAtLongInteger (.ok a) := nofun

theorem bind {k : α → Except Failure β} (hx : StopsAtLongInteger x)
    (hk : ∀ a, StopsAtLongInteger (k a)) : StopsAtLongInteger (x >>= k) := by
  intro f h
  rcases Except.bind_eq_error_iff.mp h with h | ⟨a, -, h⟩
  · exact hx f h
  · exact hk a f h

theorem map {g : α → β} (hx : StopsAtLongInteger x) : StopsAtLongInteger (g <$> x) :=
  (map_eq_pure_bind g x) ▸ hx.bind fun a => ok (g a)

theorem integerText (n : Int) : StopsAtLongInteger (integerText n) := by
  intro f h
  unfold Qualify.integerText at h
  split at h
  · cases h
  · exact (Except.error.inj h).symm

end StopsAtLongInteger

namespace Value

/-- The integers that are written out as part of a value itself. -/
def ownIntegers : Value → List Int
  | .int n => [n]
  | .rule _ _ _ _ order _ => [order]
  | .scorecard c => [c.version]
  | _ => []

/-- A value holds an integer of more digits than can be written, in itself or in a part. -/
inductive HoldsLongInteger : Value → Prop
  | own {v : Value} {n : Int} : n ∈ v.ownIntegers → tenTo digitLimit ≤ n.natAbs →
      HoldsLongInteger v
  | part {v w : Value} : w ∈ v.parts → HoldsLongInteger w → HoldsLongInteger v

theorem not_holdsLongInteger_iff {v : Value} :
    ¬ v.HoldsLongInteger ↔
      (∀ n ∈ v.ownIntegers, n.natAbs < tenTo digitLimit) ∧
        ∀ w ∈ v.parts, ¬ w.HoldsLongInteger := by
  constructor
  · intro h
    exact ⟨fun n hn => Nat.lt_of_not_ge fun hlong => h (.own hn hlong),
      fun w hw hlong => h (.part hw hlong)⟩
  · rintro ⟨hown, hparts⟩ h
    cases h with
    | own hn hlong => exact absurd (hown _ hn) (Nat.not_lt.mpr hlong)
    | part hw hlong => exact hparts _ hw hlong

/-! ## Writing inside a collection -/

theorem exists_quotedItems_iff {xs : List Value} :
    (∃ ss, quotedItems xs = .ok ss) ↔ ∀ x ∈ xs, ∃ s, x.quoted = .ok s := by
  induction xs with
  | nil => simp [quotedItems]
  | cons x xs ih =>
      simp only [quotedItems, Except.bind_eq_ok_iff, Except.pure_eq_ok_iff, List.forall_mem_cons,
        ← ih]
      constructor
      · rintro ⟨_, s, hs, ss, hss, -⟩
        exact ⟨⟨s, hs⟩, ss, hss⟩
      · rintro ⟨⟨s, hs⟩, ss, hss⟩
        exact ⟨_, s, hs, ss, hss, rfl⟩

theorem exists_quotedEntries_iff {es : List (Value × Value)} :
    (∃ ss, quotedEntries es = .ok ss) ↔
      ∀ e ∈ es, (∃ s, e.1.quoted = .ok s) ∧ ∃ s, e.2.quoted = .ok s := by
  induction es with
  | nil => simp [quotedEntries]
  | cons e es ih =>
      obtain ⟨k, v⟩ := e
      simp only [quotedEntries, Except.bind_eq_ok_iff, Except.pure_eq_ok_iff, List.forall_mem_cons,
        ← ih]
      constructor
      · rintro ⟨_, s, hs, t, ht, ss, hss, -⟩
        exact ⟨⟨⟨s, hs⟩, t, ht⟩, ss, hss⟩
      · rintro ⟨⟨⟨s, hs⟩, t, ht⟩, ss, hss⟩
        exact ⟨_, s, hs, t, ht, ss, hss, rfl⟩

/-- A value has a text inside a collection exactly when its own integers and its parts have one. -/
theorem exists_quoted_iff_parts {v : Value} :
    (∃ s, v.quoted = .ok s) ↔
      (∀ n ∈ v.ownIntegers, n.natAbs < tenTo digitLimit) ∧
        ∀ w ∈ v.parts, ∃ s, w.quoted = .ok s := by
  cases v with
  | int n => simp [quoted, ownIntegers, parts, exists_integerText_iff]
  | list xs | tuple xs | set xs | frozenSet xs =>
      simp [quoted, ownIntegers, parts, Except.map_eq_ok_iff, ← exists_quotedItems_iff]
  | map es =>
      have hparts : (∀ w ∈ (Value.map es).parts, ∃ s, w.quoted = .ok s) ↔
          ∀ e ∈ es, (∃ s, e.1.quoted = .ok s) ∧ ∃ s, e.2.quoted = .ok s := by
        constructor
        · intro h e he
          exact ⟨h _ (mem_parts_map.mpr ⟨e, he, .inl rfl⟩),
            h _ (mem_parts_map.mpr ⟨e, he, .inr rfl⟩)⟩
        · intro h w hw
          obtain ⟨e, he, rfl | rfl⟩ := mem_parts_map.mp hw
          · exact (h e he).1
          · exact (h e he).2
      rw [hparts, ← exists_quotedEntries_iff]
      simp [quoted, ownIntegers, Except.map_eq_ok_iff]
  | lead email name company domain fields utm extra =>
      simp [quoted, ownIntegers, parts, Except.bind_eq_ok_iff, Except.map_eq_ok_iff]
  | rule id teamId kind enabled order definition =>
      simp only [quoted, ownIntegers, parts, List.forall_mem_singleton, ← exists_integerText_iff]
      simp [Except.bind_eq_ok_iff, Except.map_eq_ok_iff]
  | scorecard c =>
      simp only [quoted, ownIntegers, parts, List.forall_mem_singleton, ← exists_integerText_iff]
      simp [Except.map_eq_ok_iff]
  | _ => simp [quoted, ownIntegers, parts]

/-- A value has a text inside a collection exactly when it holds no integer that is too long. -/
theorem exists_quoted_iff (v : Value) : (∃ s, v.quoted = .ok s) ↔ ¬ v.HoldsLongInteger := by
  induction v using inductionOnParts with
  | step v ih =>
      rw [exists_quoted_iff_parts, not_holdsLongInteger_iff]
      exact and_congr_right fun _ => forall₂_congr ih

/-- A value has a text exactly when it can be written inside a collection. -/
theorem exists_toText_iff_quoted {v : Value} :
    (∃ s, v.toText = .ok s) ↔ ∃ s, v.quoted = .ok s := by
  cases v with
  | rule id teamId kind enabled order definition =>
      simp [toText, quoted, Except.bind_eq_ok_iff, Except.map_eq_ok_iff]
  | scorecard c => simp [toText, quoted, Except.map_eq_ok_iff]
  | _ => simp [toText, quoted]

/-- A value has a text exactly when it holds no integer that is too long. -/
theorem exists_toText_iff {v : Value} : (∃ s, v.toText = .ok s) ↔ ¬ v.HoldsLongInteger :=
  exists_toText_iff_quoted.trans (exists_quoted_iff v)

/-! ## What stops a text -/

theorem stopsAtLongInteger_quotedItems {xs : List Value}
    (h : ∀ x ∈ xs, StopsAtLongInteger x.quoted) : StopsAtLongInteger (quotedItems xs) := by
  induction xs with
  | nil => exact .ok []
  | cons x xs ih =>
      rw [List.forall_mem_cons] at h
      exact h.1.bind fun _ => (ih h.2).bind fun _ => .ok _

theorem stopsAtLongInteger_quotedEntries {es : List (Value × Value)}
    (h : ∀ e ∈ es, StopsAtLongInteger e.1.quoted ∧ StopsAtLongInteger e.2.quoted) :
    StopsAtLongInteger (quotedEntries es) := by
  induction es with
  | nil => exact .ok []
  | cons e es ih =>
      rw [List.forall_mem_cons] at h
      exact h.1.1.bind fun _ => h.1.2.bind fun _ => (ih h.2).bind fun _ => .ok _

theorem stopsAtLongInteger_quoted (v : Value) : StopsAtLongInteger v.quoted := by
  induction v using inductionOnParts with
  | step v ih =>
      cases v with
      | int n => exact .integerText n
      | list xs | tuple xs | set xs | frozenSet xs => exact (stopsAtLongInteger_quotedItems ih).map
      | map es =>
          refine (stopsAtLongInteger_quotedEntries fun e he => ?_).map
          exact ⟨ih _ (mem_parts_map.mpr ⟨e, he, .inl rfl⟩),
            ih _ (mem_parts_map.mpr ⟨e, he, .inr rfl⟩)⟩
      | lead email name company domain fields utm extra =>
          simp only [parts, List.forall_mem_cons] at ih
          obtain ⟨h₁, h₂, h₃, h₄, h₅, h₆, h₇, -⟩ := ih
          exact h₁.bind fun _ => h₂.bind fun _ => h₃.bind fun _ => h₄.bind fun _ =>
            h₅.bind fun _ => h₆.bind fun _ => h₇.bind fun _ => .ok _
      | rule id teamId kind enabled order definition =>
          exact (StopsAtLongInteger.integerText order).bind fun _ =>
            (ih definition (List.mem_singleton_self _)).bind fun _ => .ok _
      | scorecard c =>
          rw [quoted]
          exact (StopsAtLongInteger.integerText c.version).bind fun _ => .ok _
      | _ => exact .ok _

theorem stopsAtLongInteger_toText (v : Value) : StopsAtLongInteger v.toText := by
  cases v with
  | text _ | decimal _ | date _ | timestamp _ | bands _ => exact .ok _
  | rule id teamId kind enabled order definition =>
      exact (StopsAtLongInteger.integerText order).bind fun _ =>
        (stopsAtLongInteger_quoted definition).bind fun _ => .ok _
  | scorecard c => exact (StopsAtLongInteger.integerText c.version).bind fun _ => .ok _
  | _ => exact stopsAtLongInteger_quoted _

/-- What stops a value from having a text is an integer that is too long, and any such integer
does. -/
theorem toText_eq_error_iff {v : Value} {f : Failure} :
    v.toText = .error f ↔ f = .longInteger ∧ v.HoldsLongInteger := by
  cases h : v.toText with
  | ok s =>
      have hshort : ¬ v.HoldsLongInteger := exists_toText_iff.mp ⟨s, h⟩
      simp [hshort]
  | error g =>
      have hg : g = .longInteger := stopsAtLongInteger_toText v g h
      have hlong : v.HoldsLongInteger := by
        refine Classical.not_not.mp fun hshort => ?_
        obtain ⟨s, hs⟩ := exists_toText_iff.mpr hshort
        exact nomatch h.symm.trans hs
      simp [hg, hlong, eq_comm]

end Value

end Qualify
