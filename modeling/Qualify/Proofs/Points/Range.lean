import Qualify.Proofs.Number.Shortest
import Qualify.Proofs.Points

/-!
# Which numbers have points

A number becomes points through the decimal that it is shown as, and only if that is finite and
rounds to at most 28 digits.  Every number below `10 ^ 27` does (`Binary64.hasPoints_of_lt`), with
room to spare for the way from the number to its decimal.  A share of a number has points whenever
the number has, and no more of them (`exists_scaledPoints_le`), while the whole of it comes to the
same points as the number itself (`scaledPoints_whole_eq_ok_iff`).
-/

namespace Qualify

theorem Decimal.toInteger_finite_eq_ok_iff {s : Bool} {c : ℕ} {e p : ℤ} :
    (Decimal.finite s c e).toInteger = .ok p ↔
      nearest (c * 10 ^ e) < tenTo precision ∧
        p = if s then -(nearest (c * 10 ^ e) : ℤ) else nearest (c * 10 ^ e) := by
  rw [toInteger_finite]
  split
  · case isTrue h => rw [Except.ok.injEq, eq_comm, and_iff_right h]
  · case isFalse h => exact iff_of_false nofun fun hp => h hp.1

namespace Binary64

/-- The number is worth a number of points. -/
def HasPoints (x : Binary64) : Prop := ∃ p, x.toPoints = .ok p

variable {x : Binary64} {p : ℤ}

theorem toPoints_eq_ok_iff : x.toPoints = .ok p ↔ x.shown.toInteger = .ok p :=
  ArithmeticFault.lift_eq_ok_iff

theorem shown_abs (s : Bool) (m : ℕ) (e : ℤ) {c : ℕ} {k : ℤ}
    (h : (Binary64.finite s m e).shown = .finite s c k) :
    (Binary64.finite s m e).abs.shown = .finite false c k := by
  rw [abs, shown]
  rw [shown] at h
  split
  · case isTrue hm =>
      rw [if_pos hm] at h
      cases h
      rfl
  · case isFalse hm =>
      rw [if_neg hm] at h
      rcases hshortest : shortest m e with ⟨c', k'⟩
      rw [hshortest] at h
      cases h
      rfl

/-- What is worth points is finite, and is shown as a short decimal. -/
theorem HasPoints.exists_shown (h : x.HasPoints) :
    ∃ s m e c k, x = .finite s m e ∧ x.shown = .finite s c k ∧ c ≤ 10 ^ 18 ∧ (m = 0 → c = 0) := by
  obtain ⟨p, hp⟩ := h
  rw [toPoints_eq_ok_iff] at hp
  cases x with
  | finite s m e =>
      obtain ⟨c, k, hshown, hc, hzero, -⟩ := exists_shown_finite s m e
      exact ⟨s, m, e, c, k, rfl, hshown, hc, hzero⟩
  | infinite s => cases hp
  | nan => cases hp

/-- The number without its sign is worth the same without its sign. -/
theorem toPoints_abs (h : x.toPoints = .ok p) : x.abs.toPoints = .ok |p| := by
  obtain ⟨s, m, e, c, k, rfl, hshown, -, -⟩ := HasPoints.exists_shown ⟨p, h⟩
  rw [toPoints_eq_ok_iff, hshown, Decimal.toInteger_finite_eq_ok_iff] at h
  rw [toPoints_eq_ok_iff, shown_abs s m e hshown, Decimal.toInteger_finite_eq_ok_iff]
  refine ⟨h.1, ?_⟩
  rw [h.2]
  cases s <;> simp

theorem hasPoints_of_abs (h : x.abs.HasPoints) : x.HasPoints := by
  cases x with
  | finite s m e =>
      obtain ⟨c, k, hshown, -, -, -⟩ := exists_shown_finite s m e
      obtain ⟨p, hp⟩ := h
      rw [toPoints_eq_ok_iff, shown_abs s m e hshown, Decimal.toInteger_finite_eq_ok_iff] at hp
      exact ⟨_, toPoints_eq_ok_iff.mpr
        (by rw [hshown]; exact Decimal.toInteger_finite_eq_ok_iff.mpr ⟨hp.1, rfl⟩)⟩
  | infinite s => exact h
  | nan => exact h

/-- A finite number is worth points if one half as large again has at most 28 digits. -/
theorem exists_toPoints_of_le (hfinite : x.isFinite) {b : ℕ} (h : 3 / 2 * x.magnitude ≤ b)
    (hb : b < tenTo Decimal.precision) : ∃ p, x.toPoints = .ok p ∧ |p| ≤ b := by
  cases x with
  | finite s m e =>
      obtain ⟨c, k, hshown, -, -, hle⟩ := exists_shown_finite s m e
      have hnearest : nearest ((c : ℚ) * 10 ^ k) ≤ b := by
        have hmono := nearest_mono (hle.trans h)
        rwa [nearest_natCast] at hmono
      refine ⟨_, toPoints_eq_ok_iff.mpr (hshown ▸ Decimal.toInteger_finite_eq_ok_iff.mpr
        ⟨hnearest.trans_lt hb, rfl⟩), ?_⟩
      have hcast : (nearest ((c : ℚ) * 10 ^ k) : ℤ) ≤ b := by exact_mod_cast hnearest
      cases s with
      | false | true => simpa using hcast
  | infinite s => cases hfinite
  | nan => cases hfinite

/-- A finite number below `10 ^ 27` is worth points, at most half as many again. -/
theorem exists_toPoints_of_lt (hfinite : x.isFinite) (h : x.magnitude < 10 ^ 27) :
    ∃ p, x.toPoints = .ok p ∧ |p| ≤ 15 * 10 ^ 26 := by
  have hle : 3 / 2 * x.magnitude ≤ (15 * 10 ^ 26 : ℕ) := by
    push_cast
    linarith
  obtain ⟨p, hp, habs⟩ := exists_toPoints_of_le hfinite hle (by decide)
  exact ⟨p, hp, by exact_mod_cast habs⟩

theorem hasPoints_of_lt (hfinite : x.isFinite) (h : x.magnitude < 10 ^ 27) : x.HasPoints := by
  obtain ⟨p, hp, -⟩ := exists_toPoints_of_lt hfinite h
  exact ⟨p, hp⟩

theorem toDecimal_finite (s : Bool) (m : ℕ) (e : ℤ) :
    ∃ c k, (Binary64.finite s m e).toDecimal = .finite s c k ∧ (c = 0 → m = 0) := by
  cases e with
  | ofNat k =>
      refine ⟨m * twoTo k, 0, rfl, fun h => ?_⟩
      exact (mul_eq_zero.mp h).resolve_right (Nat.pow_pos (show 0 < 2 by decide)).ne'
  | negSucc k =>
      refine ⟨m * Nat.pow 5 (k + 1), _, rfl, fun h => ?_⟩
      exact (mul_eq_zero.mp h).resolve_right (Nat.pow_pos (show 0 < 5 by decide)).ne'

/-- A number that is not negative has no sign, unless it is zero. -/
theorem significand_eq_zero_of_nonnegative {m : ℕ} {e : ℤ}
    (h : Binary64.zero.le (.finite true m e)) : m = 0 := by
  obtain ⟨c, k, hdecimal, hm⟩ := toDecimal_finite true m e
  obtain ⟨c', k', hzero, -⟩ := toDecimal_finite false 0 leastExponent
  by_contra hne
  have hcmp : Binary64.zero.cmp? (.finite true m e) = some .gt := by
    rw [cmp?, zero, hdecimal, hzero, Decimal.cmp?, if_neg fun hc => hne (hm hc.2)]
  rw [le, hcmp] at h
  cases h

end Binary64

/-! ## Shares -/

theorem scaledPoints_eq_ok_iff {a b : Decimal} {p : ℤ} :
    scaledPoints a b = .ok p ↔ ∃ d, a.mul b = .ok d ∧ d.toInteger = .ok p := by
  simp only [scaledPoints, Except.bind_eq_ok_iff, ArithmeticFault.lift_eq_ok_iff]

/-- A share of a short decimal is rounded once. -/
theorem scaledPoints_share_eq_ok_iff {s : Bool} {c n : ℕ} {k p : ℤ} (hc : c ≤ 10 ^ 18)
    (hn : n ≤ 100) :
    scaledPoints (.finite s c k) (hundredths n) = .ok p ↔
      (Decimal.finite s (c * n) (k - 2)).toInteger = .ok p := by
  have hshort : c * n < tenTo Decimal.precision := by
    calc c * n ≤ 10 ^ 18 * 100 := Nat.mul_le_mul hc hn
      _ < tenTo Decimal.precision := by decide
  rw [scaledPoints_eq_ok_iff, hundredths, Decimal.mul_toInteger_eq_ok_iff hshort, Bool.bne_false,
    sub_eq_add_neg]

theorem share_value (c n : ℕ) (k : ℤ) :
    ((c * n : ℕ) : ℚ) * 10 ^ (k - 2) = c * 10 ^ k * (n / 100) := by
  rw [zpow_sub₀ (by decide)]
  push_cast
  ring

namespace Binary64

variable {x : Binary64} {p : ℤ}

/-- The whole of a number is worth what the number is worth. -/
theorem scaledPoints_whole_eq_ok_iff :
    scaledPoints x.shown (hundredths 100) = .ok p ↔ x.toPoints = .ok p := by
  cases x with
  | finite s m e =>
      obtain ⟨c, k, hshown, hc, -, -⟩ := exists_shown_finite s m e
      have hvalue : ((c * 100 : ℕ) : ℚ) * 10 ^ (k - 2) = c * 10 ^ k := by
        rw [share_value]
        push_cast
        ring
      rw [toPoints_eq_ok_iff, hshown, scaledPoints_share_eq_ok_iff hc le_rfl,
        Decimal.toInteger_finite_eq_ok_iff, Decimal.toInteger_finite_eq_ok_iff, hvalue]
  | infinite s =>
      simp [scaledPoints_eq_ok_iff, toPoints_eq_ok_iff, shown, hundredths, Decimal.mul,
        Decimal.toInteger]
  | nan =>
      simp [scaledPoints_eq_ok_iff, toPoints_eq_ok_iff, shown, hundredths, Decimal.mul,
        Decimal.toInteger, Decimal.isSignaling]

/-- A share of a number that is not negative is worth points as soon as the number is, none below
zero and no more than the number. -/
theorem exists_scaledPoints_le (hx : Binary64.zero.le x) (hp : x.toPoints = .ok p) {n : ℕ}
    (hn : n ≤ 100) :
    ∃ q, scaledPoints x.shown (hundredths n) = .ok q ∧ 0 ≤ q ∧ q ≤ p := by
  obtain ⟨s, m, e, c, k, rfl, hshown, hc, hzero⟩ := HasPoints.exists_shown ⟨p, hp⟩
  have hle : nearest (((c * n : ℕ) : ℚ) * 10 ^ (k - 2)) ≤ nearest ((c : ℚ) * 10 ^ k) := by
    refine nearest_mono ?_
    have hshare : (n : ℚ) / 100 ≤ 1 := by
      rw [div_le_one (by norm_num)]
      exact_mod_cast hn
    have hvalue : (0 : ℚ) ≤ c * 10 ^ k := by positivity
    rw [share_value]
    exact mul_le_of_le_one_right hvalue hshare
  rw [toPoints_eq_ok_iff, hshown, Decimal.toInteger_finite_eq_ok_iff] at hp
  refine ⟨if s then -(nearest (((c * n : ℕ) : ℚ) * 10 ^ (k - 2)) : ℤ)
      else nearest (((c * n : ℕ) : ℚ) * 10 ^ (k - 2)), ?_, ?_⟩
  · rw [hshown, scaledPoints_share_eq_ok_iff hc hn, Decimal.toInteger_finite_eq_ok_iff]
    exact ⟨hle.trans_lt hp.1, rfl⟩
  · rw [hp.2]
    cases s with
    | false => simpa using hle
    | true =>
        have hc : c = 0 := hzero (significand_eq_zero_of_nonnegative hx)
        have hnone : nearest (0 : ℚ) = 0 := by exact_mod_cast nearest_natCast 0
        simp [hc, hnone]

end Binary64

end Qualify
