import Qualify.Proofs.Text.Case

/-!
# The case of the basic letters

The lower case of a text is that of the text whose basic capitals have been made small beforehand
(`lower_map_toLower`): a basic letter has one lower case, and its case does not count where it is a
neighbour of a sigma.  So texts that differ in the case of basic letters only have the same lower
case, and the same blanks at their ends.
-/

namespace Qualify.Text

/-- The basic capitals. -/
def capitals : List Char := (List.range 26).map fun i => Char.ofNat (65 + i)

/-- Only a basic capital is another character when it is made small. -/
theorem toLower_eq_self_or (c : Char) : c.toLower = c ∨ c ∈ capitals := by
  unfold Char.toLower
  split
  · case isTrue h =>
      right
      have hlow : 65 ≤ c.toNat := UInt32.le_iff_toNat_le.mp h.1
      have hhigh : c.toNat ≤ 90 := UInt32.le_iff_toNat_le.mp h.2
      refine List.mem_map.mpr ⟨c.toNat - 65, List.mem_range.mpr (by omega), ?_⟩
      rw [Nat.add_sub_cancel' hlow, Char.ofNat_toNat]
  · exact .inl rfl

/-- All that lower case asks of one character, and whether it is a blank. -/
structure Traits where
  lower : Char
  isCased : Bool
  isCaseIgnorable : Bool
  isSigma : Bool
  isDottedI : Bool
  isBlank : Bool
deriving DecidableEq

def traits (c : Char) : Traits where
  lower := lowerChar c
  isCased := isCased c
  isCaseIgnorable := isCaseIgnorable c
  isSigma := c == '\u03A3'
  isDottedI := c == '\u0130'
  isBlank := isBlank c

theorem traits_toLower_capitals : (capitals.all fun c => traits c.toLower == traits c) = true := by
  decide

/-- A basic capital has the traits of its small letter. -/
theorem traits_toLower (c : Char) : traits c.toLower = traits c := by
  rcases toLower_eq_self_or c with hself | hcapital
  · rw [hself]
  · exact beq_iff_eq.mp (List.all_eq_true.mp traits_toLower_capitals c hcapital)

theorem lowerChar_toLower (c : Char) : lowerChar c.toLower = lowerChar c :=
  congrArg Traits.lower (traits_toLower c)

theorem isCased_toLower (c : Char) : isCased c.toLower = isCased c :=
  congrArg Traits.isCased (traits_toLower c)

theorem isCaseIgnorable_toLower (c : Char) : isCaseIgnorable c.toLower = isCaseIgnorable c :=
  congrArg Traits.isCaseIgnorable (traits_toLower c)

theorem isBlank_toLower (c : Char) : isBlank c.toLower = isBlank c :=
  congrArg Traits.isBlank (traits_toLower c)

theorem toLower_eq_sigma_iff (c : Char) : c.toLower = '\u03A3' ↔ c = '\u03A3' :=
  beq_eq_beq.mp (congrArg Traits.isSigma (traits_toLower c))

theorem toLower_eq_dottedI_iff (c : Char) : c.toLower = '\u0130' ↔ c = '\u0130' :=
  beq_eq_beq.mp (congrArg Traits.isDottedI (traits_toLower c))

/-! ## Texts -/

theorem metCased_map_toLower (cs : List Char) : metCased (cs.map Char.toLower) = metCased cs := by
  induction cs with
  | nil => rfl
  | cons c cs ih =>
      rw [List.map_cons, metCased, metCased, isCaseIgnorable_toLower, isCased_toLower, ih]

theorem lowerInContext_toLower (before : List Char) (c : Char) (after : List Char) :
    lowerInContext (before.map Char.toLower) c.toLower (after.map Char.toLower) =
      lowerInContext before c after := by
  simp only [lowerInContext, toLower_eq_sigma_iff, toLower_eq_dottedI_iff, metCased_map_toLower,
    lowerChar_toLower]

theorem lowerAfter_map_toLower (before cs : List Char) :
    lowerAfter (before.map Char.toLower) (cs.map Char.toLower) = lowerAfter before cs := by
  induction cs generalizing before with
  | nil => rfl
  | cons c cs ih =>
      rw [List.map_cons, lowerAfter, lowerAfter, lowerInContext_toLower, ← List.map_cons, ih]

/-- Basic capitals may be made small beforehand. -/
theorem lower_map_toLower (cs : List Char) : lower (cs.map Char.toLower) = lower cs :=
  lowerAfter_map_toLower [] cs

variable {xs ys : List Char}

/-- Texts that differ in the case of basic letters only have one lower case. -/
theorem lower_eq_of_map_toLower (h : xs.map Char.toLower = ys.map Char.toLower) :
    lower xs = lower ys := by
  rw [← lower_map_toLower, h, lower_map_toLower]

theorem trim_map_toLower (cs : List Char) :
    trim (cs.map Char.toLower) = (trim cs).map Char.toLower := by
  have hcomp : isBlank ∘ Char.toLower = isBlank := funext isBlank_toLower
  simp only [trim, trimBy, List.dropWhile_map, ← List.map_reverse, hcomp]

end Qualify.Text
