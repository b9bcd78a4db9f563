import Qualify.Band
import Qualify.Proofs.Check
import Qualify.Proofs.Number.Order
import Qualify.Proofs.Value.Entries

/-!
# The three bands

Thresholds are numbers in ascending order, whatever they were read from, and so they cut the line on
which the scores lie into three parts.  `Band.classify_eq_iff` says that a score gets the band of the
part that it lies in; larger scores then never get a lower band, and neither do smaller thresholds.
What is left to say about a value that should be thresholds is which ones it stands for
(`Thresholds.ofValue?_eq_some_iff`), and `Thresholds.classify_ofValue` puts both together.
-/

namespace Qualify

namespace Decimal

variable {x y : Decimal}

/-- A decimal reaches those that do not lie behind it. -/
theorem reaches_iff (hx : x.isNaN = false) (hy : y.isNaN = false) :
    x.reaches y = true ↔ y.place ≤ x.place := by
  rw [reaches, cmp?_eq hx hy]
  rcases lt_trichotomy x.place y.place with h | h | h
  · simp [compare_lt_iff_lt.mpr h, h]
  · simp [h]
  · simp [compare_gt_iff_gt.mpr h, h.le]

end Decimal

namespace Binary64

variable {x y : Binary64}

/-- Where a number stands on the line from one infinity to the other. -/
def place (x : Binary64) : WithBot (WithTop ℚ) := x.toDecimal.place

theorem isNaN_toDecimal (x : Binary64) : x.toDecimal.isNaN = x.isNaN := by
  cases x with
  | finite s m e =>
      cases e with
      | ofNat k => rfl
      | negSucc k => rfl
  | infinite s => rfl
  | nan => rfl

/-- Numbers that are in order are numbers. -/
theorem le_iff : x.le y = true ↔ x.isNaN = false ∧ y.isNaN = false ∧ x.place ≤ y.place := by
  rw [le, cmp?]
  constructor
  · intro h
    split at h
    · case h_1 hcmp =>
        obtain ⟨hx, hy⟩ := Decimal.isNaN_of_cmp? hcmp
        rw [Decimal.cmp?_eq hx hy, Option.some_inj, compare_lt_iff_lt] at hcmp
        exact ⟨isNaN_toDecimal x ▸ hx, isNaN_toDecimal y ▸ hy, hcmp.le⟩
    · case h_2 hcmp =>
        obtain ⟨hx, hy, hplace⟩ := Decimal.cmp?_eq_eq_iff.mp hcmp
        exact ⟨isNaN_toDecimal x ▸ hx, isNaN_toDecimal y ▸ hy, hplace.le⟩
    · cases h
  · rintro ⟨hx, hy, hle⟩
    rw [← isNaN_toDecimal] at hx hy
    rw [Decimal.cmp?_eq hx hy]
    rcases (show x.toDecimal.place ≤ y.toDecimal.place from hle).lt_or_eq with hlt | heq
    · rw [compare_lt_iff_lt.mpr hlt]
    · rw [compare_eq_iff_eq.mpr heq]

end Binary64

namespace Thresholds

/-- All three thresholds are numbers, none lying behind the next. -/
structure IsAscending (t : Thresholds) : Prop where
  low_isNaN : t.low.isNaN = false
  medium_isNaN : t.medium.isNaN = false
  high_isNaN : t.high.isNaN = false
  low_le_medium : t.low.place ≤ t.medium.place
  medium_le_high : t.medium.place ≤ t.high.place

theorem isAscending (t : Thresholds) : t.IsAscending := by
  obtain ⟨hlow, hmedium, hlow_le⟩ := Binary64.le_iff.mp t.ascending.1
  obtain ⟨-, hhigh, hmedium_le⟩ := Binary64.le_iff.mp t.ascending.2
  exact ⟨hlow, hmedium, hhigh, hlow_le, hmedium_le⟩

end Thresholds

namespace Band

variable {t u : Thresholds} {m n score : Int} {b : Band}

/-- The scores that a band is for. -/
def Covers (t : Thresholds) (score : Int) : Band → Prop
  | high => t.high.place ≤ (Decimal.ofInt score).place
  | medium => t.medium.place ≤ (Decimal.ofInt score).place ∧
      (Decimal.ofInt score).place < t.high.place
  | low => (Decimal.ofInt score).place < t.medium.place

/-- Every score is for one band and for no other, because the thresholds ascend. -/
theorem existsUnique_covers (t : Thresholds) (score : Int) : ∃! b, Covers t score b := by
  have hmedium := t.isAscending.medium_le_high
  rcases lt_or_ge (Decimal.ofInt score).place t.medium.place with h | h
  · refine ⟨low, h, fun b hb => ?_⟩
    cases b with
    | low => rfl
    | medium => exact absurd hb.1 (not_le_of_gt h)
    | high => exact absurd hb (not_le_of_gt (h.trans_le hmedium))
  · rcases lt_or_ge (Decimal.ofInt score).place t.high.place with h' | h'
    · refine ⟨medium, ⟨h, h'⟩, fun b hb => ?_⟩
      cases b with
      | low => exact absurd hb (not_lt_of_ge h)
      | medium => rfl
      | high => exact absurd hb (not_le_of_gt h')
    · refine ⟨high, h', fun b hb => ?_⟩
      cases b with
      | low => exact absurd hb (not_lt_of_ge h)
      | medium => exact absurd hb.2 (not_lt_of_ge h')
      | high => rfl

theorem reaches_threshold_iff (score : Int) {x : Binary64} (hx : x.isNaN = false) :
    (Decimal.ofInt score).reaches x.toDecimal = true ↔ x.place ≤ (Decimal.ofInt score).place :=
  Decimal.reaches_iff rfl (x.isNaN_toDecimal ▸ hx)

theorem covers_classify (t : Thresholds) (score : Int) :
    Covers t score (classify (.ofInt score) t) := by
  have hhigh := reaches_threshold_iff score t.isAscending.high_isNaN
  have hmedium := reaches_threshold_iff score t.isAscending.medium_isNaN
  unfold classify
  split
  · case isTrue h => exact hhigh.mp h
  · case isFalse h =>
      have hbelow := not_le.mp (hhigh.not.mp h)
      split
      · case isTrue h' => exact ⟨hmedium.mp h', hbelow⟩
      · case isFalse h' => exact not_le.mp (hmedium.not.mp h')

/-- A score gets the band that is for it. -/
theorem classify_eq_iff : classify (.ofInt score) t = b ↔ Covers t score b := by
  constructor
  · rintro rfl
    exact covers_classify t score
  · intro h
    exact (existsUnique_covers t score).unique (covers_classify t score) h

/-- A larger score under smaller thresholds gets no lower band. -/
theorem rank_le_of_covers {b b' : Band} (h : Covers t m b) (h' : Covers u n b') (hmn : m ≤ n)
    (hhigh : u.high.place ≤ t.high.place) (hmedium : u.medium.place ≤ t.medium.place) :
    b.rank ≤ b'.rank := by
  have hplace : (Decimal.ofInt m).place ≤ (Decimal.ofInt n).place := Decimal.place_ofInt_le_iff.mpr hmn
  cases b with
  | low => exact Nat.zero_le _
  | medium =>
      cases b' with
      | low => exact absurd (hmedium.trans (h.1.trans hplace)) (not_le_of_gt h')
      | medium => exact le_rfl
      | high => decide
  | high =>
      have hreached : u.high.place ≤ (Decimal.ofInt n).place := hhigh.trans (h.trans hplace)
      cases b' with
      | low => exact absurd (u.isAscending.medium_le_high.trans hreached) (not_le_of_gt h')
      | medium => exact absurd hreached (not_le_of_gt h'.2)
      | high => exact le_rfl

theorem rank_classify_mono (h : m ≤ n) (t : Thresholds) :
    (classify (.ofInt m) t).rank ≤ (classify (.ofInt n) t).rank :=
  rank_le_of_covers (covers_classify t m) (covers_classify t n) h le_rfl le_rfl

end Band

/-! ## What thresholds are read from -/

namespace Thresholds

variable {v : Value} {x : Binary64} {t : Thresholds} {es : List (Value × Value)}

/-- A threshold is given as a number, or as a range, of which the lower end counts. -/
inductive IsBound : Value → Binary64 → Prop
  | number {v : Value} {x : Binary64} (hv : v.isMap = false) (hx : Check.number v = .valid x) :
      IsBound v x
  | range {es : List (Value × Value)} {v : Value} {x : Binary64}
      (hv : Value.lookup "min" es = some v) (hx : Check.number v = .valid x) : IsBound (.map es) x

theorem number_lowerEnd_iff : Check.number (Check.lowerEnd v) = .valid x ↔ IsBound v x := by
  constructor
  · intro h
    unfold Check.lowerEnd at h
    split at h
    · case isTrue hmap =>
        cases v with
        | map es =>
            change Check.number ((Value.lookup "min" es).getD .null) = .valid x at h
            cases hmin : Value.lookup "min" es with
            | none =>
                rw [hmin] at h
                cases h
            | some w =>
                rw [hmin] at h
                exact .range hmin h
        | _ => cases hmap
    · case isFalse hmap => exact .number (eq_false_of_ne_true hmap) h
  · intro h
    cases h with
    | number hv hx =>
        rw [Check.lowerEnd, if_neg (ne_true_of_eq_false hv)]
        exact hx
    | @range es w x hw hx =>
        change Check.number ((Value.lookup "min" es).getD .null) = .valid x
        rw [hw]
        exact hx

/-- The thresholds that a value stands for: it is such, or a mapping with a bound under each of the
keys, where that of the lowest band may be missing and is zero then. -/
inductive IsGiven : Value → Thresholds → Prop
  | thresholds (t : Thresholds) : IsGiven (.bands t) t
  | mapping {es : List (Value × Value)} {t : Thresholds}
      (high : ∃ w, Value.lookup "high" es = some w ∧ IsBound w t.high)
      (medium : ∃ w, Value.lookup "medium" es = some w ∧ IsBound w t.medium)
      (low : (Value.lookup "low" es = none ∧ t.low = .zero) ∨
        ∃ w, Value.lookup "low" es = some w ∧ IsBound w t.low) : IsGiven (.map es) t

theorem ascending_eq_valid_iff {high medium low : Binary64} :
    Check.ascending high medium low = .valid t ↔ t.high = high ∧ t.medium = medium ∧ t.low = low := by
  unfold Check.ascending
  constructor
  · intro h
    split at h
    · cases h
      exact ⟨rfl, rfl, rfl⟩
    · cases h
  · rintro ⟨rfl, rfl, rfl⟩
    rw [dif_pos t.ascending]

theorem thresholds_map_eq_valid_iff :
    Check.thresholds (.map es) = .valid t ↔
      (∃ w, Value.lookup "high" es = some w ∧ IsBound w t.high) ∧
      (∃ w, Value.lookup "medium" es = some w ∧ IsBound w t.medium) ∧
      ((Value.lookup "low" es = none ∧ t.low = .zero) ∨
        ∃ w, Value.lookup "low" es = some w ∧ IsBound w t.low) := by
  simp only [Check.thresholds, Check.record, Checked.andThen_valid, Checked.andThen_eq_valid_iff,
    Checked.seq_eq_valid_iff, Checked.fmap_eq_valid_iff, Check.required_singleton_eq_valid_iff,
    Check.optional_singleton_eq_valid_iff, Value.lookup_map_snd, Option.map_eq_some_iff,
    Option.map_eq_none_iff]
  constructor
  · rintro ⟨_, ⟨_, ⟨_, ⟨high, ⟨_, ⟨w, hw, rfl⟩, hhigh⟩, rfl⟩, medium, ⟨_, ⟨u, hu, rfl⟩, hmedium⟩, rfl⟩,
      low, hlow, rfl⟩, h⟩
    obtain ⟨rfl, rfl, rfl⟩ := ascending_eq_valid_iff.mp h
    refine ⟨⟨w, hw, number_lowerEnd_iff.mp hhigh⟩, ⟨u, hu, number_lowerEnd_iff.mp hmedium⟩, ?_⟩
    refine hlow.imp_right ?_
    rintro ⟨_, ⟨z, hz, rfl⟩, hlow⟩
    exact ⟨z, hz, number_lowerEnd_iff.mp hlow⟩
  · rintro ⟨⟨w, hw, hhigh⟩, ⟨u, hu, hmedium⟩, hlow⟩
    refine ⟨_, ⟨_, ⟨_, ⟨_, ⟨_, ⟨w, hw, rfl⟩, number_lowerEnd_iff.mpr hhigh⟩, rfl⟩, _,
      ⟨_, ⟨u, hu, rfl⟩, number_lowerEnd_iff.mpr hmedium⟩, rfl⟩, _, ?_, rfl⟩,
      ascending_eq_valid_iff.mpr ⟨rfl, rfl, rfl⟩⟩
    refine hlow.imp_right ?_
    rintro ⟨z, hz, hlow⟩
    exact ⟨_, ⟨z, hz, rfl⟩, number_lowerEnd_iff.mpr hlow⟩

theorem ofValue?_eq_some_iff : ofValue? v = some t ↔ IsGiven v t := by
  cases v with
  | bands u =>
      rw [ofValue?, Option.some_inj]
      constructor
      · rintro rfl
        exact .thresholds u
      · intro h
        cases h
        rfl
  | map es =>
      rw [ofValue?, Checked.result?_eq_some_iff, thresholds_map_eq_valid_iff]
      constructor
      · rintro ⟨hhigh, hmedium, hlow⟩
        exact .mapping hhigh hmedium hlow
      · intro h
        cases h with
        | mapping hhigh hmedium hlow => exact ⟨hhigh, hmedium, hlow⟩
  | _ => exact iff_of_false (fun h => nomatch h) fun h => nomatch h

theorem ofValue_of_isGiven (h : IsGiven v t) : ofValue v = t := by
  rw [ofValue, ofValue?_eq_some_iff.mpr h]
  rfl

theorem ofValue_of_not_isGiven (h : ∀ t, ¬ IsGiven v t) : ofValue v = default := by
  have hnone : ofValue? v = none :=
    Option.eq_none_iff_forall_ne_some.mpr fun t ht => h t (ofValue?_eq_some_iff.mp ht)
  rw [ofValue, hnone]
  rfl

/-- Any value comes to thresholds, the default ones unless it stands for some.  They ascend and none
of them is no number, so that every score lies in exactly one of the three parts between them, and
its band is the one of that part.  A larger score gets no lower band, and higher thresholds give no
score a higher one. -/
theorem classify_ofValue (v : Value) :
    (∀ t, IsGiven v t → ofValue v = t) ∧
    ((∀ t, ¬ IsGiven v t) → ofValue v = default) ∧
    (ofValue v).IsAscending ∧
    (∀ score, (∃! b, Band.Covers (ofValue v) score b) ∧
      ∀ b, Band.classify (.ofInt score) (ofValue v) = b ↔ Band.Covers (ofValue v) score b) ∧
    (∀ m n, m ≤ n → (Band.classify (.ofInt m) (ofValue v)).rank ≤
      (Band.classify (.ofInt n) (ofValue v)).rank) ∧
    ∀ w, (ofValue v).high.place ≤ (ofValue w).high.place →
      (ofValue v).medium.place ≤ (ofValue w).medium.place →
      ∀ score, (Band.classify (.ofInt score) (ofValue w)).rank ≤
        (Band.classify (.ofInt score) (ofValue v)).rank := by
  refine ⟨fun t => ofValue_of_isGiven, ofValue_of_not_isGiven, isAscending _, ?_, ?_, ?_⟩
  · intro score
    exact ⟨Band.existsUnique_covers _ score, fun b => Band.classify_eq_iff⟩
  · intro m n hmn
    exact Band.rank_classify_mono hmn _
  · intro w hhigh hmedium score
    exact Band.rank_le_of_covers (Band.covers_classify _ score) (Band.covers_classify _ score) le_rfl
      hhigh hmedium

/-- Thresholds given as ranges, one of them by a numeral. -/
def ranges : Value :=
  .map [(.text "low", .map [(.text "min", .int 0), (.text "max", .int 30)]),
    (.text "medium", .map [(.text "min", .int 31), (.text "max", .int 70)]),
    (.text "high", .map [(.text "min", .text "71"), (.text "max", .int 100)])]

/-- Ranges are thresholds, and the last score before one of them belongs to the band below. -/
theorem classify_ofValue_ranges :
    ∃ t, IsGiven ranges t ∧ ofValue ranges = t ∧
      Band.classify (.ofInt 70) (ofValue ranges) = .medium ∧
      (Band.classify (.ofInt 70) (ofValue ranges)).rank ≤
        (Band.classify (.ofInt 71) (ofValue ranges)).rank := by
  have hgiven : IsGiven ranges ((ofValue? ranges).get (by decide +kernel)) :=
    ofValue?_eq_some_iff.mp (Option.some_get _).symm
  obtain ⟨hofValue, -, -, -, hmono, -⟩ := classify_ofValue ranges
  exact ⟨_, hgiven, hofValue _ hgiven, by decide +kernel, hmono 70 71 (by decide)⟩

end Thresholds

end Qualify
