import DesiredState.Proofs.Settings.Sources
import Mathlib.Data.List.Forall2
import Mathlib.Data.Option.Basic

/-!
# Precedence of the sources

Two loadings beside each other. A source that settles a setting hides what the sources below it give
for that setting, be it ever so malformed, and what any source gives for one setting does not reach
another one.

* `Sources.Settles`: a source settles a setting. What that takes depends on the kind of the setting.
* `Sources.resolve_congr`: a source is looked at only if none above it settles the setting.
* `Sources.isolated`: **hidden sources change nothing**, and no setting depends on the sources of
  another one.
-/

namespace DesiredState

/-- The kinds of settings. -/
inductive Setting.Kind
  | limit
  | flag
  | word

/-- The kind of a setting. -/
def Setting.kind : Setting → Kind
  | .timeout | .connectTimeout => .limit
  | .insecure | .debug => .flag
  | .arrayMode | .stateDir => .word

/-- A setting in the form that the check gives to it: a mode without blanks and in lower case, and
any other as it is. -/
def Setting.plain : (k : Setting) → k.Value → k.Value
  | .arrayMode, mode => Text.lower (Text.trim mode)
  | .timeout, x | .connectTimeout, x => x
  | .insecure, b | .debug, b => b
  | .stateDir, dir => dir

/-- How many sources stand above a source. -/
def Source.rank : Source → Nat
  | .commandLine => 0
  | .environment => 1
  | .files => 2

/-! ### One setting from two groups of sources -/

namespace Settings

variable {env env' : Environment} {v : Text} {fallback fallback' : Option Data}

theorem map_str_injective : Function.Injective (Option.map Data.str) :=
  Option.map_injective fun s t h => by cases h; rfl

theorem seconds_congr {override override' : Option Binary64} {default : Binary64}
    (hoverride : override.map Data.float = override'.map Data.float)
    (hvariable : (¬ ∃ d ∈ override.map Data.float, d ≠ .null) →
      (env.get? v).map Data.str = (env'.get? v).map Data.str)
    (hfile : (¬ ∃ d ∈ override.map Data.float, d ≠ .null) →
      (¬ ∃ d ∈ (env.get? v).map Data.str, d ≠ .null) → fallback = fallback') :
    seconds env override v fallback default = seconds env' override' v fallback' default := by
  obtain rfl : override = override' :=
    Option.map_injective (fun x y h => by cases h; rfl) hoverride
  unfold seconds
  cases override with
  | some x => rfl
  | none =>
    have hvalue := map_str_injective (hvariable (by simp))
    rw [← hvalue]
    cases henv : env.get? v with
    | some t => rfl
    | none => rw [hfile (by simp) (by simp [henv])]

theorem flag_congr {override override' : Bool}
    (hoverride : some (Data.bool override) = some (Data.bool override'))
    (hvariable : some (Data.bool override) ≠ some (.bool true) →
      (env.get? v).map Data.str = (env'.get? v).map Data.str)
    (hfile : some (Data.bool override) ≠ some (.bool true) →
      ¬ (env.get? v).map Data.str ≠ none → fallback = fallback') :
    flag env override v fallback = flag env' override' v fallback' := by
  cases hoverride
  unfold flag
  cases override with
  | true => rfl
  | false =>
    have hvalue := map_str_injective (hvariable (by simp))
    rw [← hvalue]
    cases henv : env.get? v with
    | some t => rfl
    | none => rw [hfile (by simp) (by simp [henv])]

theorem word_congr {override override' : Option Text} {default : Text}
    (hoverride : override.map Data.str = override'.map Data.str)
    (hvariable : (¬ ∃ d ∈ override.map Data.str, d.isTruthy = true) →
      (env.get? v).map Data.str = (env'.get? v).map Data.str)
    (hfile : (¬ ∃ d ∈ override.map Data.str, d.isTruthy = true) →
      (¬ ∃ d ∈ (env.get? v).map Data.str, d.isTruthy = true) → fallback = fallback') :
    word env override v fallback default = word env' override' v fallback' default := by
  obtain rfl := map_str_injective hoverride
  unfold word
  rcases override with _ | (_ | ⟨c, t⟩)
  case some.cons => rfl
  -- an empty word of the command line is as good as none, and so is one of the environment
  all_goals
    have hvalue := map_str_injective (hvariable (by simp [Data.isTruthy]))
    rw [← hvalue]
    rcases henv : env.get? v with _ | (_ | ⟨c, t⟩)
    case some.cons => rfl
    all_goals rw [hfile (by simp [Data.isTruthy]) (by simp [henv, Data.isTruthy])]

end Settings

namespace Sources

variable {a b : Sources} {k : Setting} {source : Source}

/-- A source settles a setting: it gives a time limit that is not null, or a word that counts as
set. A flag is settled by the command line that switches it on, by a variable that is there, and at
last by the files in any case. -/
def Settles (a : Sources) (k : Setting) (source : Source) : Prop :=
  match k.kind, source with
  | .limit, _ => ∃ d ∈ a.given? k source, d ≠ .null
  | .flag, .commandLine => a.given? k source = some (.bool true)
  | .flag, .environment => a.given? k source ≠ none
  | .flag, .files => True
  | .word, _ => ∃ d ∈ a.given? k source, d.isTruthy = true

/-- A source is looked at only if none above it settles the setting. -/
theorem resolve_congr (hoverride : a.given? k .commandLine = b.given? k .commandLine)
    (hvariable : ¬ a.Settles k .commandLine → a.given? k .environment = b.given? k .environment)
    (hfile : ¬ a.Settles k .commandLine → ¬ a.Settles k .environment →
      a.given? k .files = b.given? k .files) :
    a.resolve k = b.resolve k := by
  cases k with
  | timeout => exact Settings.seconds_congr hoverride hvariable hfile
  | connectTimeout => exact Settings.seconds_congr hoverride hvariable hfile
  | insecure => exact congrArg Except.ok (Settings.flag_congr hoverride hvariable hfile)
  | debug => exact congrArg Except.ok (Settings.flag_congr hoverride hvariable hfile)
  | arrayMode => exact Settings.word_congr hoverride hvariable hfile
  | stateDir => exact Settings.word_congr hoverride hvariable hfile

/-- What settles a setting hides the sources below it. -/
theorem resolve_of_settles (hsettles : a.Settles k source)
    (h : ∀ above : Source, above.rank ≤ source.rank → a.given? k above = b.given? k above) :
    a.resolve k = b.resolve k := by
  refine resolve_congr (h .commandLine (Nat.zero_le _)) (fun hoverride => h .environment ?_)
    fun hoverride hvariable => h .files ?_
  · cases source with
    | commandLine => exact absurd hsettles hoverride
    | _ => decide
  · cases source with
    | commandLine => exact absurd hsettles hoverride
    | environment => exact absurd hsettles hvariable
    | files => decide

/-! ### All settings -/

/-- Each setting that is loaded is what was read of its own sources, in the form that the check
gives to it. -/
theorem get_of_load {s : Settings} (h : a.load = .ok s) (k : Setting) :
    ∃ v, a.resolve k = .ok v ∧ s.get k = k.plain v := by
  obtain ⟨r, hr, hcheck⟩ := load_eq_ok_iff.1 h
  obtain ⟨-, -, -, -, rfl⟩ := Settings.check_eq_ok_iff.1 hcheck
  refine ⟨r.get k, hr k, ?_⟩
  cases k <;> rfl

/-- **Hidden sources change nothing.** Two loadings whose sources give the same for all settings but
one are the same, faults included, if a source settles that one and they give the same for it from
there upwards. However its sources differ, if both loadings succeed then no other setting
differs. -/
theorem isolated (k : Setting)
    (hothers : ∀ j, j ≠ k → ∀ source, a.given? j source = b.given? j source) :
    (∀ source, a.Settles k source →
      (∀ above : Source, above.rank ≤ source.rank → a.given? k above = b.given? k above) →
      a.load = b.load) ∧
      ∀ s t, a.load = .ok s → b.load = .ok t → ∀ j, j ≠ k → s.get j = t.get j := by
  -- what the other settings are read of is the same in both
  have hresolve : ∀ j, j ≠ k → a.resolve j = b.resolve j := fun j hj =>
    resolve_congr (hothers j hj .commandLine) (fun _ => hothers j hj .environment)
      fun _ _ => hothers j hj .files
  constructor
  · intro source hsettles habove
    refine load_congr fun j => ?_
    by_cases hj : j = k
    · subst hj
      exact resolve_of_settles hsettles habove
    · exact hresolve j hj
  · intro s t hs ht j hj
    obtain ⟨v, hv, hsv⟩ := get_of_load hs j
    obtain ⟨w, hw, htw⟩ := get_of_load ht j
    have hsame : v = w := Except.ok.inj (hv.symm.trans ((hresolve j hj).trans hw))
    rw [hsv, htw, hsame]

/-- A time limit in the environment, above what the files have in its place. -/
def timed (value : Text) (d : Data) : Sources where
  overrides := { Overrides.none with insecure := true }
  env := [("RECONCILER_TIMEOUT", value), ("RECONCILER_ARRAY_MODE", "")]
  files := [(.str "timeout", d), (.str "array_mode", .str "Unordered")]

/-- What is read of it. -/
def timedSettings (x : Binary64) : Settings where
  timeout := x
  connectTimeout := Settings.defaultConnectTimeout
  insecure := true
  debug := false
  arrayMode := "unordered"
  stateDir := defaultStateDir

theorem given?_timed (value value' : Text) (d d' : Data) :
    ∀ j, j ≠ .timeout → ∀ source,
      (timed value d).given? j source = (timed value' d').given? j source := by
  intro j hj source
  cases j with
  | timeout => exact absurd rfl hj
  | _ => cases source <;> rfl

/-- A text that is no number is hidden by the variable; another value of the variable changes no
other setting. -/
theorem isolated_timed :
    ((timed "2.5" (.int 5)).Settles .timeout .environment ∧
      (timed "2.5" (.int 5)).load = (timed "2.5" (.str "soon")).load) ∧
      (timed "2.5" (.int 5)).load = .ok (timedSettings (Binary64.ofRatio false 5 2)) ∧
      (timed "9" (.str "soon")).load = .ok (timedSettings (Binary64.ofRatio false 9 1)) ∧
      ∀ j, j ≠ .timeout → (timedSettings (Binary64.ofRatio false 5 2)).get j =
        (timedSettings (Binary64.ofRatio false 9 1)).get j := by
  have hsettles : (timed "2.5" (.int 5)).Settles .timeout .environment :=
    ⟨.str "2.5", rfl, fun h => by cases h⟩
  have hfirst : (timed "2.5" (.int 5)).load = .ok (timedSettings (Binary64.ofRatio false 5 2)) := by
    decide +kernel
  have hsecond : (timed "9" (.str "soon")).load =
      .ok (timedSettings (Binary64.ofRatio false 9 1)) := by decide +kernel
  refine ⟨⟨hsettles, ?_⟩, hfirst, hsecond, ?_⟩
  · refine (isolated .timeout (given?_timed _ _ _ _)).1 .environment hsettles fun above habove => ?_
    cases above with
    | files => exact absurd habove (by decide)
    | _ => rfl
  · exact (isolated .timeout (given?_timed _ _ _ _)).2 _ _ hfirst hsecond

end Sources

end DesiredState
