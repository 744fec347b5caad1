import DesiredState.Settings.Load

/-!
# Settings and their sources

A setting is read from the command line, the environment and the files, each of which may have it
or not. Settings are read one after the other, and the first that cannot be read ends the loading;
the check comes when all are read.

* `Setting`, `Source`: a setting and a source of settings, by name.
* `Sources.given?`, `Sources.resolve`: what a source gives for a setting, and what the setting is
  before the check.
* `Settings.check_eq_ok_iff`: the settings that pass the check, and what it makes of them.
* `Sources.load_eq_ok_iff`: the settings that are loaded.
* `Sources.load_eq_error_iff`: **the first fault** is what loading fails with.
-/

namespace DesiredState

section Binding

variable {ε α β : Type} {x : Except ε α} {k : α → Except ε β}

theorem bind_eq_ok_iff {b : β} : x >>= k = .ok b ↔ ∃ a, x = .ok a ∧ k a = .ok b := by
  cases x <;> simp [bind, Except.bind]

theorem bind_eq_error_iff {e : ε} :
    x >>= k = .error e ↔ x = .error e ∨ ∃ a, x = .ok a ∧ k a = .error e := by
  cases x <;> simp [bind, Except.bind]

end Binding

/-- The settings of a run by name, in the order in which they are read. -/
inductive Setting
  | timeout
  | connectTimeout
  | insecure
  | debug
  | arrayMode
  | stateDir
  deriving DecidableEq

namespace Setting

/-- What a setting is: a time limit, a flag or a word. -/
abbrev Value : Setting → Type
  | .timeout | .connectTimeout => Binary64
  | .insecure | .debug => Bool
  | .arrayMode | .stateDir => Text

/-- The variable for a setting. -/
def variableName : Setting → Text
  | .timeout => Settings.timeoutVariable
  | .connectTimeout => Settings.connectTimeoutVariable
  | .insecure => "RECONCILER_INSECURE"
  | .debug => "RECONCILER_DEBUG"
  | .arrayMode => "RECONCILER_ARRAY_MODE"
  | .stateDir => "RECONCILER_STATE_DIR"

/-- The key for a setting in what the files say. -/
def fileKey : Setting → Text
  | .timeout => "timeout"
  | .connectTimeout => "connect_timeout"
  | .insecure => "insecure"
  | .debug => "debug"
  | .arrayMode => "array_mode"
  | .stateDir => "state_dir"

/-- The place of a setting in the order. -/
def place : Setting → Nat
  | .timeout => 0
  | .connectTimeout => 1
  | .insecure => 2
  | .debug => 3
  | .arrayMode => 4
  | .stateDir => 5

end Setting

/-- The sources of a setting, from the one that counts most. -/
inductive Source
  | commandLine
  | environment
  | files

/-- A setting of a run. -/
def Settings.get (s : Settings) : (k : Setting) → k.Value
  | .timeout => s.timeout
  | .connectTimeout => s.connectTimeout
  | .insecure => s.insecure
  | .debug => s.debug
  | .arrayMode => s.arrayMode
  | .stateDir => s.stateDir

/-! ### The check -/

theorem ArrayMode.exists_name_iff {t : Text} :
    (∃ m : ArrayMode, t = m.name) ↔ (ArrayMode.ofName? t).isNone = false := by
  unfold ArrayMode.ofName?
  constructor
  · rintro ⟨m, rfl⟩
    cases m <;> rfl
  · intro h
    split at h
    · next ht => exact ⟨.ordered, ht⟩
    split at h
    · next ht => exact ⟨.unordered, ht⟩
    · cases h

/-- The check passes settings whose time limits are not at most zero, whose mode is one of the two
in its plain form, and whose directory is not blank. It changes nothing but the form of the mode. -/
theorem Settings.check_eq_ok_iff {r s : Settings} : check r = .ok s ↔
    r.timeout.isNonpositive = false ∧ r.connectTimeout.isNonpositive = false ∧
      (∃ m : ArrayMode, Text.lower (Text.trim r.arrayMode) = m.name) ∧
      Text.isBlank r.stateDir = false ∧
      s = { r with arrayMode := Text.lower (Text.trim r.arrayMode) } := by
  rw [ArrayMode.exists_name_iff]
  unfold check
  dsimp only
  split
  · next h => simp [h]
  split
  · next h => simp [h]
  split
  · next h => simp [h]
  split
  · next h => simp [h]
  · next htimeout hconnect hmode hdir => simp [htimeout, hconnect, hmode, hdir, eq_comm]

/-! ### Loading -/

/-- All that settings are read from. -/
structure Sources where
  overrides : Overrides
  env : Environment
  files : List (Key × Data)

namespace Sources

variable {a : Sources} {s : Settings} {f : SettingsFault}

/-- The settings of a run. -/
def load (a : Sources) : Except SettingsFault Settings := Settings.load a.overrides a.env a.files

/-- What a source gives for a setting, if anything. A flag of the command line is never missing, and
the command line has no time limit on connecting. -/
def given? (a : Sources) : Setting → Source → Option Data
  | .timeout, .commandLine => a.overrides.timeout.map .float
  | .connectTimeout, .commandLine => none
  | .insecure, .commandLine => some (.bool a.overrides.insecure)
  | .debug, .commandLine => some (.bool a.overrides.debug)
  | .arrayMode, .commandLine => a.overrides.arrayMode.map .str
  | .stateDir, .commandLine => a.overrides.stateDir.map .str
  | k, .environment => (a.env.get? k.variableName).map .str
  | k, .files => Data.find? k.fileKey a.files

/-- A setting before the check. -/
def resolve (a : Sources) : (k : Setting) → Except SettingsFault k.Value
  | .timeout =>
    Settings.seconds a.env a.overrides.timeout Setting.timeout.variableName
      (a.given? .timeout .files) Settings.defaultTimeout
  | .connectTimeout =>
    Settings.seconds a.env none Setting.connectTimeout.variableName
      (a.given? .connectTimeout .files) Settings.defaultConnectTimeout
  | .insecure =>
    .ok (Settings.flag a.env a.overrides.insecure Setting.insecure.variableName
      (a.given? .insecure .files))
  | .debug =>
    .ok (Settings.flag a.env a.overrides.debug Setting.debug.variableName (a.given? .debug .files))
  | .arrayMode =>
    Settings.word a.env a.overrides.arrayMode Setting.arrayMode.variableName
      (a.given? .arrayMode .files) ArrayMode.ordered.name
  | .stateDir =>
    Settings.word a.env a.overrides.stateDir Setting.stateDir.variableName
      (a.given? .stateDir .files) defaultStateDir

/-- The settings are read in their order and then checked. -/
theorem load_eq (a : Sources) : a.load = (do
    let timeout ← a.resolve .timeout
    let connectTimeout ← a.resolve .connectTimeout
    let insecure ← a.resolve .insecure
    let debug ← a.resolve .debug
    let arrayMode ← a.resolve .arrayMode
    let stateDir ← a.resolve .stateDir
    Settings.check ⟨timeout, connectTimeout, insecure, debug, arrayMode, stateDir⟩) := rfl

theorem load_congr {a b : Sources} (h : ∀ k, a.resolve k = b.resolve k) : a.load = b.load := by
  rw [load_eq, load_eq]
  simp only [h]

/-- If each setting can be read, the check decides. -/
theorem load_of_resolve {r : Settings} (h : ∀ k, a.resolve k = .ok (r.get k)) :
    a.load = Settings.check r := by
  rw [load_eq, h .timeout, h .connectTimeout, h .insecure, h .debug, h .arrayMode, h .stateDir]
  rfl

/-- Settings are loaded if each can be read and all together pass the check. -/
theorem load_eq_ok_iff : a.load = .ok s ↔
    ∃ r : Settings, (∀ k, a.resolve k = .ok (r.get k)) ∧ Settings.check r = .ok s := by
  constructor
  · rw [load_eq]
    simp only [bind_eq_ok_iff]
    rintro ⟨timeout, h1, connectTimeout, h2, insecure, h3, debug, h4, arrayMode, h5, stateDir, h6,
      hcheck⟩
    refine ⟨_, fun k => ?_, hcheck⟩
    cases k <;> assumption
  · rintro ⟨r, hr, hcheck⟩
    rwa [load_of_resolve hr]

/-- **The first fault**: loading fails with the fault of the first setting that cannot be read, and
if all can be read with that of the check. -/
theorem load_eq_error_iff : a.load = .error f ↔
    (∃ k, a.resolve k = .error f ∧ ∀ j : Setting, j.place < k.place → ∃ v, a.resolve j = .ok v) ∨
      ∃ r : Settings, (∀ k, a.resolve k = .ok (r.get k)) ∧ Settings.check r = .error f := by
  rw [load_eq]
  constructor
  · simp only [bind_eq_error_iff]
    -- the fault is that of the first setting without a value; flags always have one
    rintro (h | ⟨_, h1, h | ⟨_, h2, h | ⟨_, h3, h | ⟨_, h4, h | ⟨_, h5, h | ⟨_, h6, h⟩⟩⟩⟩⟩⟩)
    · exact .inl ⟨.timeout, h, fun j hj => absurd hj (Nat.not_lt_zero _)⟩
    · refine .inl ⟨.connectTimeout, h, fun j hj => ?_⟩
      cases j with
      | timeout => exact ⟨_, h1⟩
      | _ => exact absurd hj (by decide)
    · cases h
    · cases h
    · refine .inl ⟨.arrayMode, h, fun j hj => ?_⟩
      cases j with
      | timeout => exact ⟨_, h1⟩
      | connectTimeout => exact ⟨_, h2⟩
      | insecure => exact ⟨_, h3⟩
      | debug => exact ⟨_, h4⟩
      | _ => exact absurd hj (by decide)
    · refine .inl ⟨.stateDir, h, fun j hj => ?_⟩
      cases j with
      | timeout => exact ⟨_, h1⟩
      | connectTimeout => exact ⟨_, h2⟩
      | insecure => exact ⟨_, h3⟩
      | debug => exact ⟨_, h4⟩
      | arrayMode => exact ⟨_, h5⟩
      | stateDir => exact absurd hj (by decide)
    · refine .inr ⟨_, fun k => ?_, h⟩
      cases k <;> assumption
  · rintro (⟨k, hk, hbefore⟩ | ⟨r, hr, hcheck⟩)
    · cases k with
      | timeout =>
        rw [hk]
        rfl
      | connectTimeout =>
        obtain ⟨_, htimeout⟩ := hbefore .timeout (by decide)
        rw [htimeout, hk]
        rfl
      | insecure => cases hk
      | debug => cases hk
      | arrayMode =>
        obtain ⟨_, htimeout⟩ := hbefore .timeout (by decide)
        obtain ⟨_, hconnect⟩ := hbefore .connectTimeout (by decide)
        rw [htimeout, hconnect, hk]
        rfl
      | stateDir =>
        obtain ⟨_, htimeout⟩ := hbefore .timeout (by decide)
        obtain ⟨_, hconnect⟩ := hbefore .connectTimeout (by decide)
        obtain ⟨_, hmode⟩ := hbefore .arrayMode (by decide)
        rw [htimeout, hconnect, hmode, hk]
        rfl
    · rwa [← load_eq, load_of_resolve hr]

end Sources

end DesiredState
