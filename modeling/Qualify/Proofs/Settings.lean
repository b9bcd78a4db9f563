import Qualify.Proofs.Check
import Qualify.Proofs.Value.Entries
import Qualify.Settings

/-!
# The path of the rules

What gives a setting first counts: what is given by name, then the last variable of the environment
that bears the setting's name in some spelling, then the file of variables, then the default
(`Settings.rulesPath_of_read`).  So a variable that is empty counts as much as any other, and hides
what the file or the default would give.  Only where the path is asked for is the empty variable
passed over, and by then the setting itself is the empty text.  `Settings.pathUnder_emptied_iff` says
when the path is nevertheless the one without the variable.
-/

namespace Qualify

namespace Settings

/-! ## What variables give -/

section

variable {source : VariableSource} {assignments : List Assignment} {es : Check.Entries}
variable {name : String} {isList : Bool} {rest : List (String × Bool)}

/-- What variables give for a setting stands before what they give for the settings behind it. -/
theorem exists_fromVariables_cons
    (h : fromVariables source assignments ((name, isList) :: rest) = .ok es) :
    ∃ own fs, es = own ++ fs ∧ fromVariables source assignments rest = .ok fs ∧
      (∀ e ∈ own, e.1 = .text name) ∧
      (isList = false → own = (given? assignments name).toList.map fun s => (.text name, .text s)) := by
  rw [fromVariables] at h
  split at h
  · case h_1 hnone =>
      exact ⟨[], es, rfl, h, List.forall_mem_nil _, fun _ => by rw [hnone]; rfl⟩
  · case h_2 s hs =>
      split at h
      · case isTrue hlist =>
          split at h
          · cases h
          · exact ⟨[], es, rfl, h, List.forall_mem_nil _, fun hfalse => by simp [hlist] at hfalse⟩
          · case h_3 j _ _ =>
              obtain ⟨fs, hfs, h⟩ := Except.bind_eq_ok_iff.mp h
              obtain rfl := Except.pure_eq_ok_iff.mp h
              exact ⟨[_], fs, rfl, hfs, List.forall_mem_singleton.mpr rfl,
                fun hfalse => by simp [hlist] at hfalse⟩
      · obtain ⟨fs, hfs, h⟩ := Except.bind_eq_ok_iff.mp h
        obtain rfl := Except.pure_eq_ok_iff.mp h
        exact ⟨[_], fs, rfl, hfs, List.forall_mem_singleton.mpr rfl, fun _ => by rw [hs]; rfl⟩

/-- Variables give nothing for what is no setting. -/
theorem lookup_fromVariables_of_notMem {names : List (String × Bool)}
    (h : fromVariables source assignments names = .ok es) (hname : name ∉ names.map Prod.fst) :
    Value.lookup name es = none := by
  induction names generalizing es with
  | nil =>
      cases h
      rfl
  | cons n names ih =>
      obtain ⟨own, fs, rfl, hfs, hown, -⟩ := exists_fromVariables_cons h
      rw [List.map_cons, List.mem_cons, not_or] at hname
      rw [Value.lookup_append, ih hfs hname.2, Option.or_none]
      exact Value.lookup_of_forall_ne fun e he hkey =>
        hname.1 (Value.text.inj (hkey.symm.trans (hown e he)))

/-- For a setting that is no list, variables give the text that they hold. -/
theorem lookup_fromVariables {names : List (String × Bool)}
    (h : fromVariables source assignments names = .ok es) (hnodup : (names.map Prod.fst).Nodup)
    (hname : (name, false) ∈ names) :
    Value.lookup name es = (given? assignments name).map .text := by
  induction names generalizing es with
  | nil => cases hname
  | cons n names ih =>
      obtain ⟨own, fs, rfl, hfs, hown, hplain⟩ := exists_fromVariables_cons h
      obtain ⟨hn, hnodup⟩ := List.nodup_cons.mp hnodup
      rw [Value.lookup_append]
      rcases List.mem_cons.mp hname with rfl | hname
      · rw [lookup_fromVariables_of_notMem hfs hn, Option.or_none, hplain rfl]
        cases given? assignments name with
        | none => rfl
        | some s => exact if_pos rfl
      · rw [ih hfs hnodup hname, Value.lookup_of_forall_ne, Option.none_or]
        intro e he hkey
        have hsame : name = n.1 := Value.text.inj (hkey.symm.trans (hown e he))
        exact hn (hsame ▸ List.mem_map_of_mem hname)

end

/-! ## The environment -/

section

variable {env env' : Variables} {name : String} {v : String × String}

/-- What the environment gives for a setting: the last variable of that name counts, however the
name is spelled. -/
def inEnvironment? (env : Variables) (name : String) : Option String :=
  (env.reverse.find? fun v => v.1.lowerCase == name).map (·.2)

theorem given?_environment (env : Variables) (name : String) :
    given? (env.map fun v => (v.1, some v.2)) name = inEnvironment? env name := by
  rw [given?, inEnvironment?, ← List.map_reverse, List.find?_map]
  simp only [Function.comp_def]
  cases env.reverse.find? fun v => v.1.lowerCase == name with
  | none => rfl
  | some v => rfl

/-- Later variables count before earlier ones. -/
theorem inEnvironment?_append (env env' : Variables) (name : String) :
    inEnvironment? (env ++ env') name = (inEnvironment? env' name).or (inEnvironment? env name) := by
  rw [inEnvironment?, inEnvironment?, inEnvironment?, List.reverse_append, List.find?_append]
  cases env'.reverse.find? fun v => v.1.lowerCase == name with
  | none => rfl
  | some v => rfl

theorem inEnvironment?_cons (h : v.1.lowerCase = name) (env : Variables) :
    inEnvironment? (v :: env) name = (inEnvironment? env name).or (some v.2) := by
  have hsingle : inEnvironment? [v] name = some v.2 := by simp [inEnvironment?, h]
  rw [← List.singleton_append, inEnvironment?_append, hsingle]

end

/-! ## The path -/

/-- The name of the setting for the path of the rules. -/
def pathName : String := "scoring_rules_path"

variable {given : Check.Entries} {env pre post : Variables} {file : Option String}
variable {s s' : Settings}

theorem lowerCase_pathVariable : pathVariable.lowerCase = pathName := by decide +kernel

theorem rulesPath_of_settings {es : Check.Entries} (h : Check.settings es = .valid s) :
    (Value.lookup pathName es = none ∧ s.rulesPath = ({} : Settings).rulesPath) ∨
      ∃ v, Value.lookup pathName es = some v ∧ Check.text v = .valid s.rulesPath := by
  simp only [Check.settings, Checked.seq_eq_valid_iff, Checked.fmap_eq_valid_iff] at h
  obtain ⟨_, ⟨_, ⟨_, ⟨_, ⟨_, ⟨_, ⟨_, ⟨_, ⟨_, ⟨_, ⟨_, ⟨_, ⟨_, -, rfl⟩, _, -, rfl⟩, _, -, rfl⟩, _,
    -, rfl⟩, _, -, rfl⟩, _, -, rfl⟩, _, -, rfl⟩, _, -, rfl⟩, path, hpath, rfl⟩, _, -, rfl⟩, _, -,
    rfl⟩, _, -, rfl⟩, _, -, rfl⟩ := h
  exact Check.optional_singleton_eq_valid_iff.mp hpath

/-- What is given by name counts first, then the environment, then the file, then the default. -/
theorem rulesPath_of_read (h : read given env file = .ok s) :
    (∃ v, Value.lookup pathName given = some v ∧ Check.text v = .valid s.rulesPath) ∨
      Value.lookup pathName given = none ∧
        s.rulesPath = ((inEnvironment? env pathName).or
          (given? (EnvFile.read env (file.getD "")) pathName)).getD ({} : Settings).rulesPath := by
  have hnodup : (names.map Prod.fst).Nodup := by decide
  have hname : (pathName, false) ∈ names := by decide
  obtain ⟨es, hes, h⟩ := Except.bind_eq_ok_iff.mp h
  obtain ⟨fs, hfs, h⟩ := Except.bind_eq_ok_iff.mp h
  have hsettings : Check.settings (given ++ es ++ fs) = .valid s := by
    split at h
    · case h_1 t ht => rw [ht, Except.pure_eq_ok_iff.mp h]
    · cases h
  have hlookup : Value.lookup pathName (given ++ es ++ fs) = (Value.lookup pathName given).or
      (((inEnvironment? env pathName).or
        (given? (EnvFile.read env (file.getD "")) pathName)).map .text) := by
    rw [List.append_assoc, Value.lookup_append, Value.lookup_append,
      lookup_fromVariables hes hnodup hname, lookup_fromVariables hfs hnodup hname,
      given?_environment, Option.map_or]
  have hpath := rulesPath_of_settings hsettings
  rw [hlookup] at hpath
  cases hgiven : Value.lookup pathName given with
  | some v => simpa [hgiven] using hpath
  | none =>
      refine .inr ⟨rfl, ?_⟩
      rw [hgiven, Option.none_or] at hpath
      cases hfound : (inEnvironment? env pathName).or
          (given? (EnvFile.read env (file.getD "")) pathName) with
      | none => simpa [hfound] using hpath
      | some p =>
          have htext : Check.text (.text p) = .valid s.rulesPath := by simpa [hfound] using hpath
          exact (Checked.valid.inj htext).symm

theorem lookup_pathVariable_of_forall_ne (h : ∀ v ∈ env, v.1 ≠ pathVariable) :
    env.reverse.lookup pathVariable = none := by
  rw [List.lookup_eq_none_iff]
  intro v hv
  simpa using (h v (List.mem_reverse.mp hv)).symm

/-- Without the variable the path is the one of the settings. -/
theorem pathUnder_absent (h : ∀ v ∈ env, v.1 ≠ pathVariable) (s : Settings) :
    s.pathUnder env = s.rulesPath := by
  rw [pathUnder, lookup_pathVariable_of_forall_ne h]

/-- With the variable empty, so it is. -/
theorem pathUnder_emptied (h : ∀ v ∈ post, v.1 ≠ pathVariable) (s : Settings) :
    s.pathUnder (pre ++ (pathVariable, "") :: post) = s.rulesPath := by
  have hlookup : (pre ++ (pathVariable, "") :: post).reverse.lookup pathVariable = some "" := by
    rw [List.reverse_append, List.reverse_cons, List.append_assoc, List.lookup_append,
      lookup_pathVariable_of_forall_ne h, Option.none_or, List.singleton_append,
      List.lookup_cons_self]
  rw [pathUnder, hlookup]
  rfl

/-- The empty variable gives the empty path unless the path is given by name or by a variable behind
it that is spelled otherwise. -/
theorem rulesPath_emptied (h : read given (pre ++ (pathVariable, "") :: post) file = .ok s)
    (hgiven : Value.lookup pathName given = none) :
    s.rulesPath = (inEnvironment? post pathName).getD "" := by
  rcases rulesPath_of_read h with ⟨v, hv, -⟩ | ⟨-, hpath⟩
  · simp [hgiven] at hv
  · have hcons := inEnvironment?_cons (v := (pathVariable, "")) lowerCase_pathVariable post
    rw [hpath, inEnvironment?_append, hcons]
    cases inEnvironment? post pathName <;> rfl

/-- Let the variable for the path be empty in an environment, some variables being set before it and some
behind it.  The path of the rules is the same as without the variable exactly if the path is given by
name, or by a variable behind it in another spelling, or if what counts next, a variable before it or
else the file, gives the empty path too.  Otherwise the path is empty. -/
theorem pathUnder_emptied_iff (hpre : ∀ v ∈ pre ++ post, v.1 ≠ pathVariable)
    (hempty : read given (pre ++ (pathVariable, "") :: post) file = .ok s)
    (habsent : read given (pre ++ post) file = .ok s') :
    (s.pathUnder (pre ++ (pathVariable, "") :: post) = s'.pathUnder (pre ++ post) ↔
      (Value.lookup pathName given).isSome ∨ (inEnvironment? post pathName).isSome ∨
        (inEnvironment? pre pathName).or
          (given? (EnvFile.read (pre ++ post) (file.getD "")) pathName) = some "") ∧
    (s.pathUnder (pre ++ (pathVariable, "") :: post) ≠ s'.pathUnder (pre ++ post) →
      s.pathUnder (pre ++ (pathVariable, "") :: post) = "") := by
  rw [pathUnder_emptied fun v hv => hpre v (List.mem_append_right _ hv), pathUnder_absent hpre]
  rcases rulesPath_of_read habsent with ⟨v, hv, habsent⟩ | ⟨hgiven, habsent⟩
  · rcases rulesPath_of_read hempty with ⟨w, hw, hempty⟩ | ⟨hnone, -⟩
    · obtain rfl := Option.some.inj (hv.symm.trans hw)
      have hsame : s.rulesPath = s'.rulesPath := Checked.valid.inj (hempty.symm.trans habsent)
      simp [hv, hsame]
    · simp [hv] at hnone
  · rw [rulesPath_emptied hempty hgiven, habsent, inEnvironment?_append, hgiven]
    cases inEnvironment? post pathName with
    | some p => simp
    | none =>
        rw [Option.none_or]
        cases (inEnvironment? pre pathName).or
            (given? (EnvFile.read (pre ++ post) (file.getD "")) pathName) with
        | none => simp
        | some p => simp [eq_comm]

namespace OtherSpelling

def before : Variables := [("LOG_LEVEL", "debug")]

def behind : Variables := [("Scoring_Rules_Path", "mine.yaml")]

def fileText : Option String := some "SCORING_RULES_PATH=other.yaml"

end OtherSpelling

open OtherSpelling in
/-- A variable behind the empty one, spelled otherwise, hides the file with it and without it. -/
theorem pathUnder_emptied_otherSpelling :
    ∃ s s' : Settings, read [] (before ++ (pathVariable, "") :: behind) fileText = .ok s ∧
      read [] (before ++ behind) fileText = .ok s' ∧
      s.pathUnder (before ++ (pathVariable, "") :: behind) = s'.pathUnder (before ++ behind) := by
  obtain ⟨s, hs, -⟩ := Except.exists_of_any
    (x := read [] (before ++ (pathVariable, "") :: behind) fileText) (p := fun _ => true)
    (by decide +kernel)
  obtain ⟨s', hs', -⟩ := Except.exists_of_any (x := read [] (before ++ behind) fileText)
    (p := fun _ => true) (by decide +kernel)
  have hbehind : (inEnvironment? behind pathName).isSome := by decide +kernel
  exact ⟨s, s', hs, hs', (pathUnder_emptied_iff (by decide) hs hs').1.mpr (.inr (.inl hbehind))⟩

/-- An empty variable gives the empty path where no variable gives the default. -/
theorem pathUnder_empty_ne_absent :
    ∃ s s' : Settings, read [] [(pathVariable, "")] none = .ok s ∧ read [] [] none = .ok s' ∧
      s.pathUnder [(pathVariable, "")] = "" ∧ s'.pathUnder [] = "config/scoring_rules.yaml" := by
  obtain ⟨s, hs, hpath⟩ := Except.exists_of_any (x := read [] [(pathVariable, "")] none)
    (p := fun s => s.pathUnder [(pathVariable, "")] == "") (by decide +kernel)
  obtain ⟨s', hs', hpath'⟩ := Except.exists_of_any (x := read [] [] none)
    (p := fun s => s.pathUnder [] == "config/scoring_rules.yaml") (by decide +kernel)
  exact ⟨s, s', hs, hs', eq_of_beq hpath, eq_of_beq hpath'⟩

end Settings

end Qualify
