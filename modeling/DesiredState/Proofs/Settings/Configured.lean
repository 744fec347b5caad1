import DesiredState.Proofs.Resource.Tidy
import DesiredState.Proofs.Settings.Acceptance
import DesiredState.Settings.File

/-!
# Settings from the configuration files alone

What the files say is checked against the schema of a configuration, flattened, and checked again as
settings. The two checks agree on all values but one: the schema lets a directory pass that has
nothing but blanks in its name, and the check of the settings does not.

* `ConfigFile.isAccepted_of_ofEntries`: what the schema makes sure of.
* `ConfigFile.settings`: the settings that a configuration asks for.
* `ConfigFile.load_alone`: **a configuration without other sources** gives just these settings, or
  is refused for its directory.
-/

namespace DesiredState

open Schema

section Checks

variable {d : Data} {x : Binary64} {t : Text} {words : List Text}

theorem Schema.Check.positive_ok (h : Check.positive d = .ok x) : x.isPositive = true := by
  unfold Check.positive at h
  split at h
  · cases h
  split at h
  · next hpositive =>
    cases h
    exact hpositive
  · cases h

theorem Schema.Check.literal_ok (h : Check.literal words d = .ok t) : t ∈ words := by
  unfold Check.literal at h
  split at h
  · split at h
    · next hmem =>
      cases h
      exact List.contains_iff_mem.1 hmem
    · cases h
  · cases h

end Checks

/-! ### Settings that stand in the files only -/

namespace Settings

variable {env : Environment} {v : Text}

theorem seconds_of_files {x default : Binary64} (h : env.get? v = none) :
    seconds env none v (some (.float x)) default = .ok x := by
  unfold seconds
  rw [h]
  rfl

theorem flag_of_files {b : Bool} (h : env.get? v = none) :
    flag env false v (some (.bool b)) = b := by
  unfold flag
  rw [h]
  rfl

theorem word_of_files {t default : Text} (h : env.get? v = none) (ht : t ≠ []) :
    word env none v (some (.str t)) default = .ok t := by
  unfold word
  rw [h]
  cases t with
  | nil => exact absurd rfl ht
  | cons c t => rfl

theorem word_of_default {default : Text} (h : env.get? v = none) :
    word env none v none default = .ok default := by
  unfold word
  rw [h]

end Settings

namespace ConfigFile

variable {es : List (Key × Data)} {file : ConfigFile} {env : Environment} {d : Data}

/-- A configuration as the schema has it: time limits above zero, and one of the two modes. -/
structure IsAccepted (file : ConfigFile) : Prop where
  timeout : file.http.timeout.isPositive = true
  connectTimeout : file.http.connectTimeout.isPositive = true
  arrayMode : ∃ m : ArrayMode, file.comparison.arrayMode = m.name

theorem isPositive_defaultHttp :
    defaultHttp.timeout.isPositive = true ∧ defaultHttp.connectTimeout.isPositive = true := by
  decide +kernel

theorem isPositive_of_httpOfData {http : HttpSection} (h : httpOfData d = .ok http) :
    http.timeout.isPositive = true ∧ http.connectTimeout.isPositive = true := by
  obtain ⟨es, hfields⟩ := Check.model_ok h
  obtain ⟨⟨timeout, connectTimeout, insecure⟩, hparts, rfl⟩ := Checked.map_eq_ok_iff.1 hfields
  simp only [Checked.both_eq_ok_iff] at hparts
  obtain ⟨htimeout, hconnect, -⟩ := hparts
  constructor
  · exact Check.optional_ok (p := fun x => x.isPositive = true) htimeout isPositive_defaultHttp.1
      Check.positive_ok
  · exact Check.optional_ok (p := fun x => x.isPositive = true) hconnect isPositive_defaultHttp.2
      Check.positive_ok

theorem exists_name_of_comparisonOfData {comparison : ComparisonSection}
    (h : comparisonOfData d = .ok comparison) : ∃ m : ArrayMode, comparison.arrayMode = m.name := by
  obtain ⟨es, hfields⟩ := Check.model_ok h
  obtain ⟨mode, hmode, rfl⟩ := Checked.map_eq_ok_iff.1 hfields
  refine Check.optional_ok (p := fun mode => ∃ m : ArrayMode, mode = m.name) hmode
    ⟨.ordered, rfl⟩ fun {d} hword => ?_
  rcases List.mem_pair.1 (Check.literal_ok hword) with h | h
  · exact ⟨.ordered, h⟩
  · exact ⟨.unordered, h⟩

/-- The schema makes sure of the time limits and of the mode, in sections that are there and by the
defaults of those that are not. -/
theorem isAccepted_of_ofEntries (h : ofEntries es = .ok file) : file.IsAccepted := by
  unfold ofEntries at h
  split at h
  · split at h
    · next hcheck =>
      cases h
      obtain ⟨⟨http, comparison, store, logging⟩, hparts, rfl⟩ := Checked.map_eq_ok_iff.1 hcheck
      simp only [Checked.both_eq_ok_iff] at hparts
      obtain ⟨hhttp, hcomparison, -⟩ := hparts
      obtain ⟨htimeout, hconnect⟩ := Check.optional_ok
        (p := fun http => http.timeout.isPositive = true ∧ http.connectTimeout.isPositive = true)
        hhttp isPositive_defaultHttp isPositive_of_httpOfData
      have hmode := Check.optional_ok
        (p := fun comparison => ∃ m : ArrayMode, comparison.arrayMode = m.name)
        hcomparison ⟨.ordered, rfl⟩ exists_name_of_comparisonOfData
      exact ⟨htimeout, hconnect, hmode⟩
    · cases h
  · cases h

/-! ### Loading a configuration -/

/-- The settings that a configuration asks for. Without a directory, or with an empty one, it is the
built-in one. -/
def settings (file : ConfigFile) : Settings where
  timeout := file.http.timeout
  connectTimeout := file.http.connectTimeout
  insecure := file.http.insecure
  debug := file.logging.debug
  arrayMode := file.comparison.arrayMode
  stateDir := match file.store.stateDir with
    | some (c :: t) => c :: t
    | _ => defaultStateDir

/-- The directory is not empty, and has nothing but blanks. -/
def HasBlankDir (file : ConfigFile) : Prop :=
  ∃ dir, file.store.stateDir = some dir ∧ dir ≠ [] ∧ ∀ c ∈ dir, c.isBlank = true

/-- A configuration in an environment, with nothing on the command line. -/
def alone (file : ConfigFile) (env : Environment) : Sources :=
  ⟨Overrides.none, env, file.fallbacks⟩

/-- Each setting is read as it stands in the configuration. -/
theorem resolve_alone (hfile : file.IsAccepted)
    (henv : ∀ name, Text.startsWith name "RECONCILER_" = true → env.get? name = none)
    (k : Setting) :
    (file.alone env).resolve k = .ok (file.settings.get k) := by
  have hvariable : env.get? k.variableName = none := henv _ (by cases k <;> decide)
  cases k with
  | timeout => exact Settings.seconds_of_files hvariable
  | connectTimeout => exact Settings.seconds_of_files hvariable
  | insecure => exact congrArg Except.ok (Settings.flag_of_files hvariable)
  | debug => exact congrArg Except.ok (Settings.flag_of_files hvariable)
  | arrayMode =>
    refine Settings.word_of_files hvariable ?_
    obtain ⟨m, hm⟩ := hfile.arrayMode
    rw [hm]
    cases m <;> decide
  | stateDir =>
    -- what the files say has no directory where the configuration has none or an empty one
    change Settings.word env none _ (Data.find? "state_dir" file.fallbacks) _ = _
    unfold fallbacks settings Settings.get
    dsimp only
    rcases file.store.stateDir with _ | _ | ⟨c, t⟩
    · exact Settings.word_of_default hvariable
    · exact Settings.word_of_default hvariable
    · exact Settings.word_of_files hvariable (List.cons_ne_nil c t)

theorem isBlank_stateDir_settings_iff :
    Text.isBlank file.settings.stateDir = true ↔ file.HasBlankDir := by
  have hdefault : Text.isBlank defaultStateDir = false := by decide
  unfold settings HasBlankDir
  rcases file.store.stateDir with _ | _ | ⟨c, t⟩
  · simp [hdefault]
  · simp [hdefault]
  · simp [Text.isBlank]

/-- The settings of an accepted configuration pass the check unless the directory is blank, and the
check leaves them as they are. -/
theorem check_settings_eq_ok_iff {s : Settings} (hfile : file.IsAccepted) :
    Settings.check file.settings = .ok s ↔ ¬ file.HasBlankDir ∧ s = file.settings := by
  obtain ⟨m, hm⟩ := hfile.arrayMode
  -- the names of the modes are in plain form already
  have hplain : Text.lower (Text.trim file.settings.arrayMode) = file.settings.arrayMode := by
    change Text.lower (Text.trim file.comparison.arrayMode) = file.comparison.arrayMode
    rw [hm]
    cases m <;> decide
  have htimeout : file.settings.timeout.isNonpositive = false :=
    Binary64.isNonpositive_eq_false_of_isPositive hfile.timeout
  have hconnect : file.settings.connectTimeout.isNonpositive = false :=
    Binary64.isNonpositive_eq_false_of_isPositive hfile.connectTimeout
  have hmode : ∃ m : ArrayMode, file.settings.arrayMode = m.name := ⟨m, hm⟩
  rw [Settings.check_eq_ok_iff, hplain, ← isBlank_stateDir_settings_iff, Bool.not_eq_true]
  simp [htimeout, hconnect, hmode]

/-- **A configuration without other sources** is refused just if its directory is blank. Otherwise
the settings are the ones that it asks for. -/
theorem load_alone (hfile : ofEntries es = .ok file)
    (henv : ∀ name, Text.startsWith name "RECONCILER_" = true → env.get? name = none) :
    ((∃ f, (file.alone env).load = .error f) ↔ file.HasBlankDir) ∧
      (∀ f, (file.alone env).load = .error f → f.isRefusal = true) ∧
      ∀ s, (file.alone env).load = .ok s → s = file.settings := by
  have haccepted := isAccepted_of_ofEntries hfile
  have hload : (file.alone env).load = Settings.check file.settings :=
    Sources.load_of_resolve (resolve_alone haccepted henv)
  have hpass := fun s => check_settings_eq_ok_iff (s := s) haccepted
  rw [hload]
  refine ⟨⟨?_, fun hblank => ?_⟩, fun f => Settings.isRefusal_of_check, fun s hs => ?_⟩
  · rintro ⟨f, hf⟩
    by_contra hblank
    cases hf.symm.trans ((hpass _).2 ⟨hblank, rfl⟩)
  · cases hcheck : Settings.check file.settings with
    | error f => exact ⟨f, rfl⟩
    | ok s => exact absurd hblank ((hpass s).1 hcheck).1
  · exact ((hpass s).1 hs).2

/-- What the files say: numbers and truth values in forms that have to be read. -/
def writtenEntries : List (Key × Data) := [
  (.str "http", .dict [
    (.str "timeout", .str "2.5"),
    (.str "connect_timeout", .float (.infinite false)),
    (.str "insecure", .str "no")]),
  (.str "comparison", .dict [(.str "array_mode", .str "unordered")]),
  (.str "store", .dict [(.str "state_dir", .str " state ")]),
  (.str "logging", .dict [(.str "debug", .str "yes")])]

/-- The configuration in them. -/
def written : ConfigFile where
  http := ⟨Binary64.ofRatio false 5 2, .infinite false, false⟩
  comparison := ⟨"unordered"⟩
  store := ⟨some " state "⟩
  logging := ⟨"INFO", none, "text", true⟩

/-- The second time limit has no end, and the blanks around the directory stay. -/
theorem load_written :
    ofEntries writtenEntries = .ok written ∧
      ((∃ f, (written.alone [("HOME", "/root")]).load = .error f) ↔ written.HasBlankDir) ∧
      (∀ f, (written.alone [("HOME", "/root")]).load = .error f → f.isRefusal = true) ∧
      ∀ s, (written.alone [("HOME", "/root")]).load = .ok s → s = written.settings := by
  have hread : ofEntries writtenEntries = .ok written := by rfl
  have hother : ∀ name, Text.startsWith name "RECONCILER_" = true →
      Environment.get? [("HOME", "/root")] name = none := by
    intro name hname
    by_cases hhome : name = "HOME"
    · subst hhome
      cases hname
    · exact if_neg (Ne.symm hhome)
  exact ⟨hread, load_alone hread hother⟩

end ConfigFile

end DesiredState
