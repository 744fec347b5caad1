import DesiredState.Log.Setup

/-!
# When the log cannot be set up

* `Log.Setup.IsBroken`: a file that is not opened, or a word that names something else than a level.
* `Log.Setup.make_eq_error_iff`: **exactly then there is no log.**
-/

namespace DesiredState

namespace Log.Setup

variable {env : Environment} {debug : Bool} {file level : Option Text} {format : Text} {d : Disk}

/-- A log that cannot be set up: its file has a path that cannot be handed to the system or is not
opened, or the word for its level is one of the two that stand for something else. -/
inductive IsBroken (env : Environment) (debug : Bool) (file level : Option Text) (d : Disk) : Prop
  | path {t : Text} (hfile : file = some t) (hne : t ≠ [])
      (h : (pathFault? (d.absolute (FilePath.ofText t)).text).isSome)
  | file {t : Text} {e : FileFault} (hfile : file = some t) (hne : t ≠ [])
      (h : d.append (d.absolute (FilePath.ofText t)) [] = .error e)
  | level (hdebug : debug = false)
      (h : levelWord env level = patternWord ∨ levelWord env level = stylesWord)

theorem openHandlers_eq_error_iff : (∃ f, openHandlers file format d = .error f) ↔
    ∃ t, file = some t ∧ t ≠ [] ∧ ((pathFault? (d.absolute (FilePath.ofText t)).text).isSome ∨
      ∃ e, d.append (d.absolute (FilePath.ofText t)) [] = .error e) := by
  unfold openHandlers
  match file with
  | none => simp
  | some [] => simp
  | some (c :: t) =>
    simp only [Option.some.injEq, exists_eq_left']
    cases pathFault? (d.absolute (FilePath.ofText (c :: t))).text with
    | some f => simp
    | none => cases d.append (d.absolute (FilePath.ofText (c :: t))) [] <;> simp

theorem leastLevel_eq_error_iff : (∃ f, leastLevel env debug level = .error f) ↔
    debug = false ∧ (levelWord env level = patternWord ∨ levelWord env level = stylesWord) := by
  unfold leastLevel
  cases debug with
  | true => simp
  | false =>
    by_cases hpattern : levelWord env level = patternWord
    · simp [hpattern]
    · by_cases hstyles : levelWord env level = stylesWord
      · have hne : stylesWord ≠ patternWord := by decide
        simp [hstyles, hne]
      · simp [hpattern, hstyles]

theorem make_eq_error_iff :
    (∃ f, (make env debug file format level d).1 = .error f) ↔ IsBroken env debug file level d := by
  have hbroken : IsBroken env debug file level d ↔
      (∃ f, openHandlers file format d = .error f) ∨
        ∃ f, leastLevel env debug level = .error f := by
    rw [openHandlers_eq_error_iff, leastLevel_eq_error_iff]
    constructor
    · rintro (⟨hfile, hne, h⟩ | ⟨hfile, hne, h⟩ | ⟨hdebug, h⟩)
      · exact .inl ⟨_, hfile, hne, .inl h⟩
      · exact .inl ⟨_, hfile, hne, .inr ⟨_, h⟩⟩
      · exact .inr ⟨hdebug, h⟩
    · rintro (⟨t, hfile, hne, h | ⟨e, h⟩⟩ | ⟨hdebug, h⟩)
      · exact .path hfile hne h
      · exact .file hfile hne h
      · exact .level hdebug h
  rw [hbroken]
  unfold make
  cases openHandlers file format d with
  | error f => simp
  | ok opened => cases leastLevel env debug level <;> simp

end Log.Setup

end DesiredState
