import DesiredState.Proofs.Number.Special
import DesiredState.Proofs.Settings.Sources

/-!
# What loading accepts

A time limit comes from the first source that has it. Whatever the sources say, settings that are
loaded have one of the two modes and a directory that is not blank, but the check asks whether a
time limit is at most zero, and what is not a number is not. Loading fails for a reason that is no
refusal just if a whole number is too large to become a floating point number.

* `Sources.limit?`: what the first source gives that has a time limit.
* `Sources.load_eq_tooLarge_iff`: the time limits that are too large.
* `Sources.isUsable_of_load`: **the settings that are loaded**, and when a time limit is above zero.
* `Sources.not_refused_iff`: **when loading fails with something else than a refusal.**
-/

namespace DesiredState

/-! ### Data for a time limit -/

namespace Data

/-- What is not a number, or a text that spells it. -/
inductive SaysNan : Data → Prop
  | number : SaysNan (.float .nan)
  | text {t : Text} (h : Numeral.SpellsNan t) : SaysNan (.str t)

/-- A whole number beyond the range of floating point numbers. -/
inductive IsTooLarge : Data → Prop
  | intro {n : Int} (h : Binary64.overflow ≤ n.natAbs) : IsTooLarge (.int n)

end Data

namespace Settings

variable {v : Text} {d : Data}

theorem secondsOfData_eq_nan_iff : secondsOfData v d = .ok .nan ↔ d.SaysNan := by
  constructor
  · intro h
    unfold secondsOfData at h
    split at h
    · cases h
      exact .number
    · next n =>
      -- no whole number becomes what is not a number
      split at h
      · next x hx =>
        cases h
        unfold Binary64.ofInt? at hx
        split at hx
        · cases hx
        · exact absurd (Option.some.inj hx) (Binary64.ofRatio_ne_nan _ _ _)
      · cases h
    · next b =>
      have hone : Binary64.one ≠ .nan := Binary64.ofRatio_ne_nan _ _ _
      cases b
      · cases h
      · exact absurd (Except.ok.inj h) hone
    · next t =>
      split at h
      · next x hx =>
        cases h
        exact .text (Numeral.real?_eq_nan_iff.1 hx)
      · cases h
    · cases h
  · rintro (_ | h)
    · rfl
    · unfold secondsOfData
      dsimp only
      rw [Numeral.real?_eq_nan_iff.2 h]

theorem secondsOfData_eq_tooLarge_iff : secondsOfData v d = .error .tooLarge ↔ d.IsTooLarge := by
  constructor
  · intro h
    unfold secondsOfData at h
    split at h
    · cases h
    · next n =>
      split at h
      · cases h
      · next hn => exact .intro (Binary64.ofInt?_eq_none_iff.1 hn)
    · cases h
    · split at h <;> cases h
    · split at h <;> cases h
  · rintro ⟨h⟩
    unfold secondsOfData
    dsimp only
    rw [Binary64.ofInt?_eq_none_iff.2 h]

/-- A time limit from what a source gives, or the default. -/
def readLimit (v : Text) (default : Binary64) : Option Data → Except SettingsFault Binary64
  | some d => secondsOfData v d
  | none => .ok default

theorem readLimit_eq_tooLarge_iff {default : Binary64} {given : Option Data} :
    readLimit v default given = .error .tooLarge ↔ ∃ d ∈ given, d.IsTooLarge := by
  cases given with
  | none => simp [readLimit]
  | some d => simp [readLimit, secondsOfData_eq_tooLarge_iff]

theorem readLimit_eq_nan_iff {default : Binary64} {given : Option Data}
    (hdefault : default ≠ .nan) :
    readLimit v default given = .ok .nan ↔ ∃ d ∈ given, d.SaysNan := by
  cases given with
  | none => simp [readLimit, hdefault]
  | some d => simp [readLimit, secondsOfData_eq_nan_iff]

/-- A time limit that passes the check is above zero unless its source gives what is not a
number. -/
theorem isAboveZero_iff_of_readLimit {default x : Binary64} {given : Option Data}
    (hdefault : default ≠ .nan) (hread : readLimit v default given = .ok x)
    (hpass : x.isNonpositive = false) : x.value.IsAboveZero ↔ ∀ d ∈ given, ¬ d.SaysNan := by
  have hnan : x = .nan ↔ ∃ d ∈ given, d.SaysNan := by
    rw [← readLimit_eq_nan_iff hdefault, hread, Except.ok.injEq]
  have hnot : (∀ d ∈ given, ¬ d.SaysNan) ↔ x ≠ .nan := by
    rw [Ne, hnan]
    push Not
    rfl
  rw [← Binary64.isPositive_iff, hnot]
  rcases Binary64.isNonpositive_eq_false_iff.1 hpass with hpositive | rfl
  · refine iff_of_true hpositive ?_
    rintro rfl
    cases hpositive
  · exact iff_of_false Bool.false_ne_true (not_not.2 rfl)

/-! ### Faults -/

theorem isRefusal_of_word {env : Environment} {override : Option Text} {fallback : Option Data}
    {default : Text} {f : SettingsFault}
    (h : word env override v fallback default = .error f) : f.isRefusal = true := by
  unfold word at h
  split at h
  · cases h
  · cases h
  · split at h
    · unfold wordOfData at h
      split at h
      · cases h
      · cases h
        rfl
    · cases h
  · cases h

theorem isRefusal_of_check {s : Settings} {f : SettingsFault} (h : check s = .error f) :
    f.isRefusal = true := by
  unfold check at h
  dsimp only at h
  split at h
  · cases h
    rfl
  split at h
  · cases h
    rfl
  split at h
  · cases h
    rfl
  split at h
  · cases h
    rfl
  · cases h

end Settings

theorem SettingsFault.isRefusal_eq_false_iff {f : SettingsFault} :
    f.isRefusal = false ↔ f = .tooLarge := by
  cases f <;> simp [isRefusal]

namespace Sources

variable {a : Sources} {s : Settings}

/-- What the first source gives that has a time limit. Null in the files is none. -/
def limit? (a : Sources) (k : Setting) : Option Data :=
  match a.given? k .commandLine, a.given? k .environment, a.given? k .files with
  | some d, _, _ => some d
  | none, some d, _ => some d
  | none, none, some .null => none
  | none, none, d => d

/-- A time limit is read off the first source that has it. -/
theorem seconds_eq {k : Setting} {override : Option Binary64} (default : Binary64)
    (hoverride : a.given? k .commandLine = override.map .float)
    (hvariable : a.given? k .environment = (a.env.get? k.variableName).map .str) :
    Settings.seconds a.env override k.variableName (a.given? k .files) default =
      Settings.readLimit k.variableName default (a.limit? k) := by
  unfold Settings.seconds limit?
  rw [hoverride, hvariable]
  cases override with
  | some x => rfl
  | none =>
    cases a.env.get? k.variableName with
    | some t => rfl
    | none =>
      cases a.given? k .files with
      | none => rfl
      | some d =>
        -- null is told from the other scalars
        cases d with
        | scalar s => cases s <;> rfl
        | date written => rfl
        | list items => rfl
        | dict entries => rfl

theorem resolve_timeout (a : Sources) : a.resolve .timeout =
    Settings.readLimit Setting.timeout.variableName Settings.defaultTimeout (a.limit? .timeout) :=
  seconds_eq _ rfl rfl

theorem resolve_connectTimeout (a : Sources) : a.resolve .connectTimeout =
    Settings.readLimit Setting.connectTimeout.variableName Settings.defaultConnectTimeout
      (a.limit? .connectTimeout) :=
  seconds_eq _ rfl rfl

/-- **The settings that are loaded** have one of the two modes and a directory that is not blank. A
time limit is above zero unless the first source that has it gives what is not a number. -/
theorem isUsable_of_load (h : a.load = .ok s) :
    (s.timeout.value.IsAboveZero ↔ ∀ d ∈ a.limit? .timeout, ¬ d.SaysNan) ∧
      (s.connectTimeout.value.IsAboveZero ↔ ∀ d ∈ a.limit? .connectTimeout, ¬ d.SaysNan) ∧
      (∃ m : ArrayMode, s.arrayMode = m.name) ∧ ∃ c ∈ s.stateDir, c.isBlank = false := by
  obtain ⟨r, hr, hcheck⟩ := load_eq_ok_iff.1 h
  obtain ⟨htimeout, hconnect, hmode, hdir, rfl⟩ := Settings.check_eq_ok_iff.1 hcheck
  have hfirst := a.resolve_timeout.symm.trans (hr .timeout)
  have hsecond := a.resolve_connectTimeout.symm.trans (hr .connectTimeout)
  refine ⟨?_, ?_, hmode, List.all_eq_false.1 hdir |>.imp fun c hc => by simpa using hc⟩
  · exact Settings.isAboveZero_iff_of_readLimit (Binary64.ofRatio_ne_nan _ _ _) hfirst htimeout
  · exact Settings.isAboveZero_iff_of_readLimit (Binary64.ofRatio_ne_nan _ _ _) hsecond hconnect

/-- Time limits and a mode in forms that have to be read. The one on connecting is not a number. -/
def spelledOut : Sources where
  overrides := Overrides.none
  env := [("RECONCILER_TIMEOUT", " +1_0.5"), ("RECONCILER_ARRAY_MODE", "UnOrdered ")]
  files := [(.str "connect_timeout", .str "-NaN "), (.str "state_dir", .str "state")]

/-- What is read of them. -/
def spelledOutSettings : Settings where
  timeout := Binary64.ofRatio false 21 2
  connectTimeout := .nan
  insecure := false
  debug := false
  arrayMode := "unordered"
  stateDir := "state"

theorem load_spelledOut : spelledOut.load = .ok spelledOutSettings := by decide +kernel

theorem isUsable_spelledOut : spelledOut.load = .ok spelledOutSettings ∧
    (spelledOutSettings.timeout.value.IsAboveZero ↔ ∀ d ∈ spelledOut.limit? .timeout, ¬ d.SaysNan) ∧
      (spelledOutSettings.connectTimeout.value.IsAboveZero ↔
        ∀ d ∈ spelledOut.limit? .connectTimeout, ¬ d.SaysNan) ∧
      (∃ m : ArrayMode, spelledOutSettings.arrayMode = m.name) ∧
      ∃ c ∈ spelledOutSettings.stateDir, c.isBlank = false :=
  ⟨load_spelledOut, isUsable_of_load load_spelledOut⟩

/-- A time limit that is not a number is loaded, although it is not above zero. -/
theorem nan_loaded :
    (⟨Overrides.none, [("RECONCILER_TIMEOUT", "nan")], []⟩ : Sources).load =
        .ok { Settings.default with timeout := .nan } ∧
      ¬ Binary64.nan.value.IsAboveZero :=
  ⟨by decide +kernel, id⟩

/-- Loading fails for a conversion just if a time limit that is reached is too large. -/
theorem load_eq_tooLarge_iff : a.load = .error .tooLarge ↔
    (∃ d ∈ a.limit? .timeout, d.IsTooLarge) ∨
      (∃ x, a.resolve .timeout = .ok x) ∧ ∃ d ∈ a.limit? .connectTimeout, d.IsTooLarge := by
  rw [← Settings.readLimit_eq_tooLarge_iff, ← a.resolve_timeout,
    ← Settings.readLimit_eq_tooLarge_iff, ← a.resolve_connectTimeout, load_eq_error_iff]
  constructor
  · rintro (⟨k, hk, hbefore⟩ | ⟨r, -, hcheck⟩)
    · cases k with
      | timeout => exact .inl hk
      | connectTimeout => exact .inr ⟨hbefore .timeout (by decide), hk⟩
      | insecure => cases hk
      | debug => cases hk
      | arrayMode => cases Settings.isRefusal_of_word hk
      | stateDir => cases Settings.isRefusal_of_word hk
    · cases Settings.isRefusal_of_check hcheck
  · rintro (htimeout | ⟨hread, hconnect⟩)
    · exact .inl ⟨.timeout, htimeout, fun j hj => absurd hj (Nat.not_lt_zero _)⟩
    · refine .inl ⟨.connectTimeout, hconnect, fun j hj => ?_⟩
      cases j with
      | timeout => exact hread
      | _ => exact absurd hj (by decide)

end Sources

end DesiredState
