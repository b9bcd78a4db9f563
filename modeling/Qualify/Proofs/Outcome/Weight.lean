import Qualify.Proofs.Application.Independence
import Qualify.Proofs.Check
import Qualify.Proofs.Points.Range
import Qualify.Proofs.Value.Text

/-!
# Tables of weights and what is looked up in them

A table of weights is given with keys of any kind and kept by their texts.  A value is looked up by
a key of its own, which is its text as well, except for truth values: these are written with a
capital letter and looked up without (`weightKey_bool_ne_boolText`).  So a rule whose table has one key
applies to the leads that have that very value, unless the value is a truth value, which no table
can be reached by (`Application.weight_applies_iff`).
-/

namespace Qualify

namespace Value

/-- A text, a truth value, a number or an integer that can be written. -/
inductive IsScalar : Value → Prop
  | text (s : String) : IsScalar (.text s)
  | bool (b : Bool) : IsScalar (.bool b)
  | float (x : Binary64) : IsScalar (.float x)
  | int {n : Int} : n.natAbs < tenTo digitLimit → IsScalar (.int n)

theorem toText_int (n : Int) : (Value.int n).toText = integerText n := rfl

variable {v : Value} {s : String}

theorem IsScalar.exists_toText (h : v.IsScalar) : ∃ s, v.toText = .ok s := by
  cases h with
  | text s => exact ⟨s, rfl⟩
  | bool b => exact ⟨boolText b, rfl⟩
  | float x => exact ⟨x.text, rfl⟩
  | int hn =>
      rw [toText_int]
      exact exists_integerText_iff.mpr hn

end Value

open Value (IsScalar)

variable {v : Value} {s : String} {x : Binary64}

/-! ## The key of a value -/

theorem weightKey_bool_ne_boolText (b : Bool) :
    (if b then "true" else "false") ≠ Value.boolText b := by
  cases b with
  | true => decide
  | false => decide

/-- A scalar is looked up by some text, and by its own exactly if it is no truth value. -/
theorem exists_weightKey (hv : v.IsScalar) (hs : v.toText = .ok s) :
    ∃ key, weightKey v = .ok (some key) ∧ (key = s ↔ v.isBool = false) := by
  cases hv with
  | text t => exact ⟨t, rfl, by simpa [Value.isBool, Value.toText] using hs⟩
  | bool b =>
      obtain rfl : Value.boolText b = s := Except.ok.inj hs
      refine ⟨if b then "true" else "false", rfl, ?_⟩
      simpa [Value.isBool] using weightKey_bool_ne_boolText b
  | float y => exact ⟨s, by simp [weightKey, Value.isNumber, hs], by simp [Value.isBool]⟩
  | int hn => exact ⟨s, by simp [weightKey, Value.isNumber, hs], by simp [Value.isBool]⟩

theorem exists_weightReason {path : String} (h : path ≠ "") : ∃ r, weightReason path = .ok r := by
  unfold weightReason
  dsimp only
  split
  · case h_1 hnil =>
      split_ifs at hnil with hwords
      · exact absurd (String.toList_eq_nil_iff.mp hnil) h
      · exact absurd (List.isEmpty_iff.mpr hnil) hwords
  · exact ⟨_, rfl⟩

/-! ## Reading a table -/

namespace Check

theorem weightTable_singleton {q : Value} (hs : v.toText = .ok s) (hq : number q = .valid x) :
    weightTable (.map [(v, q)]) = .valid [(s, x)] := by
  have hkeys : withTextKeys [(v, q)] = .ok [(.text s, q)] := by
    simp [withTextKeys, hs, Value.withEntry]
  have hentries : tableEntries number [(.text s, q)] = .valid [(s, x)] := by
    rw [tableEntries, hq]
    rfl
  rw [weightTable, hkeys, Checked.ofExcept, Checked.andThen_valid, pointTable, tableOf, hentries]
  rfl

theorem ne_empty_of_nonemptyText {field : String} (h : nonemptyText v = .valid field) :
    field ≠ "" := by
  obtain ⟨t, -, ht⟩ := Checked.andThen_eq_valid_iff.mp h
  split_ifs at ht with hempty
  · cases ht
  · cases ht
    exact fun heq => hempty (by simp [heq])

end Check

/-! ## Applying a rule with one weight -/

theorem Definition.adjustment?_weight_singleton {cells : Cells} {root : Value} {field : String}
    {delta : Int} (id : String) (reason : Option String) (hfield : field ≠ "")
    (hresolve : root.resolve cells field = .ok v) (hv : v.IsScalar) (hs : v.toText = .ok s)
    (hdelta : x.toPoints = .ok delta) :
    ∃ text, (Definition.weight field [(s, x)] reason).adjustment? id cells root =
      .ok (if v.isBool then none else some ⟨text, delta⟩) := by
  obtain ⟨key, hkey, hsame⟩ := exists_weightKey hv hs
  obtain ⟨derived, hderived⟩ := exists_weightReason hfield
  refine ⟨(givenReason reason).getD derived, ?_⟩
  simp only [adjustment?, hresolve, hkey, Except.ok_bind, PointTable.get?]
  cases hbool : v.isBool with
  | true =>
      have hne : (key == s) = false := by
        rw [beq_eq_false_iff_ne]
        exact fun h => by simp [hsame.mp h] at hbool
      simp only [List.lookup_cons, hne, List.lookup_nil]
      rfl
  | false =>
      rw [hsame.mpr hbool]
      cases hgiven : givenReason reason with
      | none => simp [hderived, hdelta]
      | some r => simp [hdelta]

/-- A weight rule has one weight: it is in use, and its table holds points under one key. -/
structure Rule.HasWeight (r : Rule) (field : String) (key points : Value) : Prop where
  enabled : r.enabled
  kind : r.kind = .weight
  definition : ∃ es, r.definition = .map es ∧
    Check.required ["field"] Check.nonemptyText es = .valid field ∧
    Value.lookup "weights" es = some (.map [(key, points)]) ∧
    ∃ reason, Check.optional ["reason"] none (Check.nullable Check.text) es = .valid reason

namespace Rule

variable {r : Rule} {field : String} {points : Value}

/-- The definition of a rule with one weight can be read. -/
theorem HasWeight.exists_readDefinition (h : r.HasWeight field v points) (hs : v.toText = .ok s)
    (hx : Check.number points = .valid x) :
    field ≠ "" ∧ ∃ reason, r.readDefinition = .ok (.weight field [(s, x)] reason) := by
  obtain ⟨es, hdefinition, hfield, hweights, reason, hreason⟩ := h.definition
  have hne : field ≠ "" := by
    obtain ⟨key, w, -, hw⟩ := Check.required_eq_valid_iff.mp hfield
    exact Check.ne_empty_of_nonemptyText hw
  have htable : Check.required ["weights"] Check.weightTable es = .valid [(s, x)] :=
    Check.required_eq_valid_iff.mpr ⟨"weights", _, Check.find?_singleton.mpr ⟨rfl, hweights⟩,
      Check.weightTable_singleton hs hx⟩
  have hread : Check.weightRule es = .valid (.weight field [(s, x)] reason) := by
    simp only [Check.weightRule, Checked.seq_eq_valid_iff, Checked.fmap_eq_valid_iff]
    exact ⟨_, ⟨_, ⟨field, hfield, rfl⟩, _, htable, rfl⟩, reason, hreason, rfl⟩
  refine ⟨hne, reason, ?_⟩
  simp [readDefinition, hdefinition, h.kind, Check.definition, hread]

end Rule

namespace Application

variable {cells : Cells} {lead w points : Value} {r : Rule} {field : String}

/-- A rule whose table gives points below `10 ^ 27` to a scalar is applied to a lead that has that
scalar in the rule's field, and adds the points that the number is worth, exactly if the scalar is
no truth value. -/
theorem weight_applies_iff (hrule : ruleOf? w = some r) (hweight : r.HasWeight field v points)
    (hv : v.IsScalar) (hpoints : Check.number points = .valid x) (hfinite : x.isFinite)
    (hlt : x.magnitude < 10 ^ 27) (hresolve : (rootOf cells lead).resolve cells field = .ok v) :
    (∃ reason delta, x.toPoints = .ok delta ∧
      YieldsAlone cells lead w ⟨some r.id, .applied ⟨reason, delta⟩⟩) ↔ v.isBool = false := by
  obtain ⟨s, hs⟩ := hv.exists_toText
  obtain ⟨delta, hdelta⟩ := Binary64.hasPoints_of_lt hfinite hlt
  obtain ⟨hfield, reason, hdefinition⟩ := hweight.exists_readDefinition hs hpoints
  obtain ⟨text, hadjustment⟩ :=
    Definition.adjustment?_weight_singleton r.id reason hfield hresolve hv hs hdelta
  have houtcome : r.outcome cells (rootOf cells lead) =
      ⟨some r.id, if v.isBool then .notMatched else .applied ⟨text, delta⟩⟩ := by
    rw [Rule.outcome, Rule.verdict, hweight.enabled, hdefinition]
    dsimp only
    rw [hadjustment]
    cases v.isBool with
    | true => rfl
    | false => rfl
  simp only [yieldsAlone_iff, alone_of_rule hrule, houtcome, Except.ok.injEq]
  cases v.isBool with
  | true =>
      refine iff_of_false ?_ Bool.noConfusion
      rintro ⟨_, _, -, h⟩
      cases h
  | false => exact iff_of_true ⟨text, delta, hdelta, rfl⟩ rfl

/-- A rule that gives five points to leads with a given value in a field. -/
def fiveFor (field : String) (v : Value) : Value :=
  .map [(.text "id", .text "five"), (.text "type", .text "WEIGHT"),
    (.text "definition", .map [(.text "field", .text field),
      (.text "weights", .map [(v, .int 5)])])]

/-- A lead with a given value in a field. -/
def leadWith (field : String) (v : Value) : Value :=
  .map [(.text "fields", .map [(.text field, v)])]

/-- Five points for a lead of seven seats. -/
theorem weight_applies_iff_sevenSeats :
    ∃ reason delta, Binary64.toPoints (.ofRatio false 5 1) = .ok delta ∧
      YieldsAlone [] (leadWith "seats" (.int 7)) (fiveFor "fields.seats" (.int 7))
        ⟨some "five", .applied ⟨reason, delta⟩⟩ := by
  have hweight : Rule.HasWeight
      ⟨"five", none, .weight, true, 0, .map [(.text "field", .text "fields.seats"),
        (.text "weights", .map [(.int 7, .int 5)])]⟩ "fields.seats" (.int 7) (.int 5) :=
    ⟨rfl, rfl, _, rfl, rfl, rfl, none, rfl⟩
  have hfive : Binary64.ofRatio false 5 1 = .finite false (5 * 2 ^ 50) (-50) := by decide +kernel
  have hlt : (Binary64.ofRatio false 5 1).magnitude < 10 ^ 27 := by
    rw [hfive, Binary64.magnitude]
    norm_num
  have hseats : (Value.int 7).IsScalar := .int (lt_digitLimit_of_lt_precision (by decide))
  exact (weight_applies_iff rfl hweight hseats rfl rfl hlt rfl).mpr rfl

/-- No points for an active lead, though the table names the very value. -/
theorem ofRules_activeWeight_notMatched :
    ofRules [] (leadWith "active" (.bool true)) (.list [fiveFor "fields.active" (.bool true)]) 0 =
      .ok ⟨0, [⟨some "five", .notMatched⟩]⟩ := by
  decide +kernel

end Application

end Qualify
