import Qualify.Evaluation
import Qualify.Proofs.BaseScore.Dependence
import Qualify.Proofs.Path
import Qualify.Proofs.Text.Pieces
import Qualify.Proofs.Value.Change

/-!
# A mapping, its lead, and the attributes of that

A lead may be given as a mapping, as a lead read from one, or as the attributes that such a lead has
in turn.  All three are the same lead, and so they are evaluated alike (`Lead.interchange`).  Paths
see the same in the mapping and in its lead, too, except where reading puts something else in its
place: fields or parameters that are no mapping, and parameters under their other key.
-/

namespace Qualify

namespace Lead

variable {cells : Cells} {es : List (Value × Value)} {key : String}

/-- A lead's own attributes. -/
def ownEntries (l : Lead) : List (String × Value) :=
  [("email", l.email), ("name", l.name), ("company", l.company), ("domain", l.domain),
    ("fields", l.fields), ("utm", l.utm)]

theorem attributes_eq_setEntries (l : Lead) :
    l.attributes = Value.setEntries l.extra l.ownEntries := rfl

theorem nodup_ownEntries (l : Lead) : (l.ownEntries.map Prod.fst).Nodup := by
  have hkeys : l.ownEntries.map Prod.fst =
      ["email", "name", "company", "domain", "fields", "utm"] := rfl
  rw [hkeys]
  decide

/-- Each of a lead's own attributes stands under its key. -/
theorem lookup_attributes (l : Lead) :
    Value.lookup "email" l.attributes = some l.email ∧
      Value.lookup "name" l.attributes = some l.name ∧
      Value.lookup "company" l.attributes = some l.company ∧
      Value.lookup "domain" l.attributes = some l.domain ∧
      Value.lookup "fields" l.attributes = some l.fields ∧
      Value.lookup "utm" l.attributes = some l.utm := by
  have hown : ∀ t ∈ l.ownEntries, Value.lookup t.1 l.attributes = some t.2 :=
    fun t ht => Value.lookup_setEntries_of_mem l.nodup_ownEntries ht
  simp only [ownEntries, List.forall_mem_cons] at hown
  obtain ⟨hemail, hname, hcompany, hdomain, hfields, hutm, -⟩ := hown
  exact ⟨hemail, hname, hcompany, hdomain, hfields, hutm⟩

/-! ## Reading a lead again -/

theorem isMap_mappingOrEmpty (v : Option Value) : (mappingOrEmpty cells v).isMap = true := by
  unfold mappingOrEmpty
  split
  · split
    · assumption
    · rfl
  · rfl

theorem mappingOrEmpty_of_isMap {v : Value} (h : v.isMap = true) :
    mappingOrEmpty cells (some v) = v := by
  cases v with
  | map es => rfl
  | _ => cases h

/-- The attributes of the lead in a mapping hold that lead again. -/
theorem ofEntries_attributes (h : cells.HoldContainers) (es : List (Value × Value)) :
    ofEntries cells (ofEntries cells es).attributes = ofEntries cells es := by
  obtain ⟨hemail, hname, hcompany, hdomain, hfields, hutm⟩ := (ofEntries cells es).lookup_attributes
  have hextra : (ofEntries cells es).attributes.filter (fun e => !isOwnKey e.1) =
      es.filter fun e => !isOwnKey e.1 := by
    rw [attributes_eq_setEntries,
      Value.filter_setEntries (p := fun k => !isOwnKey k) (by simp [ownEntries, isOwnKey, ownKeys])]
    exact List.filter_filter.trans (by simp [Bool.and_self])
  rw [ofEntries, hemail, hname, hcompany, hdomain, hfields, hutm, hextra]
  simp only [Option.getD_some, Option.some_or]
  have hfieldsMap : (ofEntries cells es).fields.isMap = true := isMap_mappingOrEmpty _
  have hutmMap : (ofEntries cells es).utm.isMap = true := isMap_mappingOrEmpty _
  rw [mappingOrEmpty_of_isMap hfieldsMap, mappingOrEmpty_of_isMap hutmMap]
  simp only [ofEntries, h.deref_deref]

/-! ## What paths see -/

/-- Reading a lead keeps what a mapping holds under a key: it is none of those of fields and
parameters, or one of them and has a mapping under it. -/
def KeepsEntry (cells : Cells) (es : List (Value × Value)) (key : String) : Prop :=
  key ∉ ["fields", "utm", "utmParams"] ∨
    (key = "fields" ∨ key = "utm") ∧ ∃ w, Value.lookup key es = some w ∧ (cells.deref w).isMap = true

theorem mappingOrEmpty_some {w : Value} (h : (cells.deref w).isMap = true) :
    mappingOrEmpty cells (some w) = cells.deref w :=
  if_pos h

theorem entry_attributes (h : cells.HoldContainers) (hkey : KeepsEntry cells es key) :
    (Value.map (ofEntries cells es).attributes).entry cells key =
      (Value.map es).entry cells key := by
  obtain ⟨hemail, hname, hcompany, hdomain, hfields, hutm⟩ := (ofEntries cells es).lookup_attributes
  rw [Value.entry_map, Value.entry_map]
  rcases hkey with hkey | ⟨rfl | rfl, w, hw, hmap⟩
  · by_cases hmem : key ∈ ownKeys
    · simp only [ownKeys, List.mem_cons, List.not_mem_nil, or_false, not_or] at hmem hkey
      obtain ⟨hnefields, hneutm, hneparams⟩ := hkey
      rcases hmem with rfl | rfl | rfl | rfl | rfl | rfl | rfl
      · rw [hemail, Option.getD_some, ofEntries, h.deref_deref]
      · rw [hname, Option.getD_some, ofEntries, h.deref_deref]
      · rw [hcompany, Option.getD_some, ofEntries, h.deref_deref]
      · rw [hdomain, Option.getD_some, ofEntries, h.deref_deref]
      · exact absurd rfl hnefields
      · exact absurd rfl hneutm
      · exact absurd rfl hneparams
    · have hkept : (!isOwnKey (.text key)) = true := by simpa [isOwnKey] using hmem
      rw [lookup_attributes_extra hmem, ofEntries,
        Value.lookup_filter (p := fun k => !isOwnKey k) hkept]
  · rw [hfields, ofEntries, hw, mappingOrEmpty_some hmap, Option.getD_some, Option.getD_some,
      h.deref_deref]
  · rw [hutm, ofEntries, hw, Option.some_or, mappingOrEmpty_some hmap, Option.getD_some,
      Option.getD_some, h.deref_deref]

/-- Parameters that stand under their other key only are found under the first one in the lead. -/
theorem entry_attributes_utm (h : cells.HoldContainers) (hutm : Value.lookup "utm" es = none)
    {w : Value} (hparams : Value.lookup "utmParams" es = some w)
    (hmap : (cells.deref w).isMap = true) :
    (Value.map (ofEntries cells es).attributes).entry cells "utm" =
      (Value.map es).entry cells "utmParams" := by
  obtain ⟨-, -, -, -, -, hown⟩ := (ofEntries cells es).lookup_attributes
  rw [Value.entry_map, Value.entry_map, hown, ofEntries, hutm, hparams, Option.none_or,
    mappingOrEmpty_some hmap, Option.getD_some, Option.getD_some, h.deref_deref]

end Lead

namespace Value

variable {cells : Cells} {es fs : List (Value × Value)} {path : String}

/-- The key with which a path begins. -/
def firstKey (path : String) : String := String.ofList ((segments path).headD [])

/-- Two walks that find the same with their first keys go on alike. -/
theorem walk_map_cons {s t : List Char}
    (h : (map es).entry cells (String.ofList s) = (map fs).entry cells (String.ofList t))
    (rest : List (List Char)) :
    (map es).walk cells (s :: rest) = (map fs).walk cells (t :: rest) := by
  have hstep : ∀ (gs : List (Value × Value)) (u : List Char),
      (map gs).walk cells (u :: rest) = ((map gs).entry cells (String.ofList u)).walk cells rest :=
    fun gs u => rfl
  rw [hstep, hstep, h]

theorem resolve_map_congr
    (h : (map es).entry cells (firstKey path) = (map fs).entry cells (firstKey path)) :
    (map es).resolve cells path = (map fs).resolve cells path := by
  unfold firstKey at h
  unfold resolve
  split
  · rfl
  · cases hs : segments path with
    | nil => exact absurd hs (Text.splitOn_ne_nil '.' path.toList)
    | cons s rest =>
        rw [hs] at h
        exact walk_map_cons h rest

/-- What follows a key without points on a path is a path of its own. -/
theorem segments_key_append (hkey : '.' ∉ path.toList) (rest : String) :
    segments (path ++ "." ++ rest) = path.toList :: segments rest := by
  rw [segments_append, segments, Text.splitOn_of_notMem hkey]
  rfl

end Value

/-! ## Scoring -/

/-- Two values are scored alike: under every scorecard, with all rules, and whatever is counted. -/
structure Value.ScoresAlike (cells : Cells) (v w : Value) : Prop where
  base : ∀ tables c, BaseScore.ofValue tables cells v c = BaseScore.ofValue tables cells w c
  rules : ∀ rules base,
    Application.ofRules cells v rules base = Application.ofRules cells w rules base
  evaluate : ∀ (e : Engine) config rules,
    e.evaluate cells v config rules = e.evaluate cells w config rules
  counts : ∀ (e : Engine) config rules,
    e.counts cells v config rules = e.counts cells w config rules

/-- Scoring sees of a value no more than the lead that it is or holds. -/
theorem Value.scoresAlike_of_ofValue? {cells : Cells} {v w : Value} {l : Lead}
    (hv : Lead.ofValue? cells v = some l) (hw : Lead.ofValue? cells w = some l) :
    v.ScoresAlike cells w := by
  have hbase : ∀ tables c,
      BaseScore.ofValue tables cells v c = BaseScore.ofValue tables cells w c := by
    intro tables c
    rw [BaseScore.ofValue, BaseScore.ofValue, hv, hw]
  have hrules : ∀ rules base,
      Application.ofRules cells v rules base = Application.ofRules cells w rules base := by
    intro rules base
    rw [Application.ofRules, Application.ofRules, Application.rootOf, Application.rootOf, hv, hw]
  have happraise : ∀ (e : Engine) c rules,
      e.appraise cells v c rules = e.appraise cells w c rules := by
    intro e c rules
    simp only [Engine.appraise, hbase, hrules]
  constructor
  · exact hbase
  · exact hrules
  · intro e config rules
    simp only [Engine.evaluate, Engine.assess, happraise]
  · intro e config rules
    simp only [Engine.counts, happraise]

namespace Lead

variable {cells : Cells} {v : Value} {es : List (Value × Value)}

/-- A mapping, the lead read from it, and the attributes of that lead are one and the same lead, and
are scored alike.  A path that begins with a key under which reading keeps what the mapping holds
leads to the same in the mapping and in its lead; and where there are parameters under their other
key only, a path into them leads to the same in the lead under the first key. -/
theorem interchange (hcells : cells.HoldContainers) (hv : cells.deref v = .map es) :
    (ofValue? cells v = some (ofEntries cells es) ∧
      ofValue? cells (ofEntries cells es).toValue = some (ofEntries cells es) ∧
      ofValue? cells (ofEntries cells es).root = some (ofEntries cells es)) ∧
    ((ofEntries cells es).toValue.ScoresAlike cells v ∧
      (ofEntries cells es).root.ScoresAlike cells v) ∧
    (∀ path, KeepsEntry cells es (Value.firstKey path) →
      (ofEntries cells es).toValue.resolve cells path = v.resolve cells path) ∧
    (Value.lookup "utm" es = none →
      ∀ w, Value.lookup "utmParams" es = some w → (cells.deref w).isMap = true →
        ∀ path, (ofEntries cells es).toValue.resolve cells ("utm" ++ "." ++ path) =
          v.resolve cells ("utmParams" ++ "." ++ path)) := by
  have hself : ofValue? cells v = some (ofEntries cells es) := by rw [ofValue?, hv]
  have hlead : ofValue? cells (ofEntries cells es).toValue = some (ofEntries cells es) := rfl
  have hroot : ofValue? cells (ofEntries cells es).root = some (ofEntries cells es) :=
    congrArg some (ofEntries_attributes hcells es)
  have hresolve : ∀ path, v.resolve cells path = (Value.map es).resolve cells path := by
    intro path
    rw [Value.resolve, hv]
    rfl
  have hattributes : ∀ path, (ofEntries cells es).toValue.resolve cells path =
      (Value.map (ofEntries cells es).attributes).resolve cells path := fun path => rfl
  refine ⟨⟨hself, hlead, hroot⟩, ⟨?_, ?_⟩, ?_, ?_⟩
  · exact Value.scoresAlike_of_ofValue? hlead hself
  · exact Value.scoresAlike_of_ofValue? hroot hself
  · intro path hkeeps
    rw [hresolve, hattributes]
    exact Value.resolve_map_congr (entry_attributes hcells hkeeps)
  · intro hutm w hparams hmap path
    have hne : ∀ key : String, key ++ "." ++ path ≠ "" := by
      intro key h
      have hlength := congrArg String.length h
      simp at hlength
    rw [hresolve, hattributes, Value.resolve, Value.resolve, if_neg (hne _), if_neg (hne _),
      Value.segments_key_append (by decide), Value.segments_key_append (by decide)]
    apply Value.walk_map_cons
    rw [String.ofList_toList, String.ofList_toList]
    exact entry_attributes_utm hcells hutm hparams hmap

/-- The entries of a mapping that is its own block of fields, with parameters under their other key
and a key that is no text. -/
def loopEntries : List (Value × Value) :=
  [(.text "title", .text "CEO"), (.text "fields", .shared 0),
   (.text "utmParams", .map [(.text "source", .text "ad")]), (.int 1, .text "one")]

theorem interchange_loop :
    ofValue? [.map loopEntries] (ofEntries [.map loopEntries] loopEntries).root =
        some (ofEntries [.map loopEntries] loopEntries) ∧
      (ofEntries [.map loopEntries] loopEntries).toValue.ScoresAlike [.map loopEntries] (.shared 0) ∧
      (ofEntries [.map loopEntries] loopEntries).toValue.resolve [.map loopEntries]
          "fields.fields.title" = (Value.shared 0).resolve [.map loopEntries] "fields.fields.title" ∧
      (ofEntries [.map loopEntries] loopEntries).toValue.resolve [.map loopEntries] "utm.source" =
        .ok (.text "ad") := by
  have hcells : Cells.HoldContainers [.map loopEntries] :=
    List.forall_mem_singleton.mpr fun n h => Value.noConfusion h
  have hkeeps : KeepsEntry [.map loopEntries] loopEntries (Value.firstKey "fields.fields.title") :=
    .inr ⟨.inl (by decide), .shared 0, rfl, rfl⟩
  obtain ⟨⟨-, -, hroot⟩, ⟨hscores, -⟩, hpaths, hparams⟩ :=
    interchange hcells (show Cells.deref [.map loopEntries] (.shared 0) = .map loopEntries from rfl)
  exact ⟨hroot, hscores, hpaths _ hkeeps, hparams rfl _ rfl rfl "source"⟩

end Lead

end Qualify
