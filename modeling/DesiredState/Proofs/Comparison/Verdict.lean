import DesiredState.Comparison.Verdict

/-!
# The verdict of a comparison

What a comparison decides, said without its code: an error when just one of the two texts is a JSON
object, and otherwise whether the live state is in sync.

* `Satisfies`: the observed text has what the desired one asks for, as JSON or as plain text.
* `InSync`: that, with a status of success.
* `compare_eq`: **the verdict of a comparison in closed form.**
* `compare_eq_true_iff`, `compare_eq_error_iff`: when the live state is in sync, and when the texts
  cannot be compared.
-/

namespace DesiredState

/-- The text decodes to a JSON object. -/
def Text.IsObject (t : Text) : Prop := ∃ members, Json.decode t = .ok (.obj members)

theorem Json.decodeObject?_eq_some_iff {t : Text} {members : List (Text × Json)} :
    Json.decodeObject? t = some members ↔ Json.decode t = .ok (.obj members) := by
  unfold Json.decodeObject?
  split
  · next members' h => rw [h, Option.some.injEq, Except.ok.injEq, Json.obj.injEq]
  · next h =>
    constructor
    · intro hn
      cases hn
    · intro hm
      exact absurd hm (h members)

theorem Text.isObject_iff_isSome {t : Text} :
    t.IsObject ↔ (Json.decodeObject? t).isSome = true := by
  rw [Option.isSome_iff_exists]
  exact exists_congr fun _ => Json.decodeObject?_eq_some_iff.symm

instance (t : Text) : Decidable t.IsObject := decidable_of_iff _ Text.isObject_iff_isSome.symm

/-- The observed text has what the desired one asks for: both are JSON objects and the desired one
is contained, or neither is one and the desired text stands somewhere in the observed one. -/
def Satisfies (mode : ArrayMode) (observed desired : Text) : Prop :=
  (∃ o d, Json.decode observed = .ok (.obj o) ∧ Json.decode desired = .ok (.obj d) ∧
    Json.contains mode (.obj o) (.obj d) = true) ∨
  (¬ observed.IsObject ∧ ¬ desired.IsObject ∧ desired <:+: observed)

/-- The live state is in sync: its status is one of success, and it has what is asked for. -/
def InSync (mode : ArrayMode) (observed desired : Text) (status : Int) : Prop :=
  200 ≤ status ∧ status ≤ 299 ∧ Satisfies mode observed desired

variable {mode : ArrayMode} {observed desired : Text} {status : Int}

theorem StatusCode.isSuccess_iff {code : Int} :
    isSuccess code = true ↔ 200 ≤ code ∧ code ≤ 299 := by
  unfold isSuccess
  simp only [Bool.and_eq_true, decide_eq_true_eq]
  omega

theorem StatusCode.isError_iff {code : Int} : isError code = true ↔ 400 ≤ code ∧ code ≤ 599 := by
  unfold isError
  simp only [Bool.and_eq_true, decide_eq_true_eq]
  omega

/-- Two objects are compared by containment. -/
theorem satisfies_iff_contains {o d : List (Text × Json)}
    (ho : Json.decode observed = .ok (.obj o)) (hd : Json.decode desired = .ok (.obj d)) :
    Satisfies mode observed desired ↔ Json.contains mode (.obj o) (.obj d) = true := by
  constructor
  · rintro (⟨o', d', ho', hd', h⟩ | ⟨hn, -, -⟩)
    · rw [ho] at ho'
      rw [hd] at hd'
      cases ho'
      cases hd'
      exact h
    · exact absurd ⟨o, ho⟩ hn
  · exact fun h => .inl ⟨o, d, ho, hd, h⟩

/-- Two texts that are no objects are compared as plain text. -/
theorem satisfies_iff_hasPart (ho : ¬ observed.IsObject) (hd : ¬ desired.IsObject) :
    Satisfies mode observed desired ↔ Text.hasPart desired observed = true := by
  rw [Text.hasPart_iff]
  constructor
  · rintro (⟨o, -, ho', -, -⟩ | ⟨-, -, a, b, hab⟩)
    · exact absurd ⟨o, ho'⟩ ho
    · exact ⟨a, b, hab.symm⟩
  · rintro ⟨a, b, hab⟩
    exact .inr ⟨ho, hd, a, b, hab.symm⟩

/-- Two texts of which just one is an object do not satisfy one another. -/
theorem not_satisfies_of_mismatch (h : ¬ (observed.IsObject ↔ desired.IsObject)) :
    ¬ Satisfies mode observed desired := by
  rintro (⟨o, d, ho, hd, -⟩ | ⟨ho, hd, -⟩)
  · exact h ⟨fun _ => ⟨d, hd⟩, fun _ => ⟨o, ho⟩⟩
  · exact h ⟨fun h' => absurd h' ho, fun h' => absurd h' hd⟩

instance : Decidable (Satisfies mode observed desired) :=
  match ho : Json.decodeObject? observed, hd : Json.decodeObject? desired with
  | some _, some _ =>
    decidable_of_iff _ (satisfies_iff_contains (Json.decodeObject?_eq_some_iff.1 ho)
      (Json.decodeObject?_eq_some_iff.1 hd)).symm
  | none, none =>
    decidable_of_iff _ (satisfies_iff_hasPart (by rw [Text.isObject_iff_isSome, ho]; simp)
      (by rw [Text.isObject_iff_isSome, hd]; simp)).symm
  | some _, none | none, some _ =>
    isFalse (not_satisfies_of_mismatch (by
      rw [Text.isObject_iff_isSome, Text.isObject_iff_isSome, ho, hd]; simp))

instance : Decidable (InSync mode observed desired status) :=
  inferInstanceAs (Decidable (_ ∧ _ ∧ _))

/-- **The verdict of a comparison.** When just one text is a JSON object, the error names the other
one; otherwise the verdict is whether the two are in sync. -/
theorem compare_eq (mode : ArrayMode) (observed desired : Text) (status : Int) :
    compare mode observed desired status =
      if desired.IsObject ∧ ¬ observed.IsObject then .error ⟨.observed, observed⟩
      else if observed.IsObject ∧ ¬ desired.IsObject then .error ⟨.desired, desired⟩
      else .ok (decide (InSync mode observed desired status)) := by
  have hsync : decide (InSync mode observed desired status) =
      (decide (Satisfies mode observed desired) && StatusCode.isSuccess status) := by
    rw [Bool.eq_iff_iff, decide_eq_true_iff, Bool.and_eq_true, decide_eq_true_iff,
      StatusCode.isSuccess_iff]
    exact ⟨fun h => ⟨h.2.2, h.1, h.2.1⟩, fun h => ⟨h.2.1, h.2.2, h.1⟩⟩
  have ho := Text.isObject_iff_isSome (t := observed)
  have hd := Text.isObject_iff_isSome (t := desired)
  unfold compare
  cases hobs : Json.decodeObject? observed with
  | some o =>
    cases hdes : Json.decodeObject? desired with
    | some d =>
      have h : Satisfies mode observed desired ↔ _ :=
        satisfies_iff_contains (Json.decodeObject?_eq_some_iff.1 hobs)
          (Json.decodeObject?_eq_some_iff.1 hdes)
      simp [ho, hd, hobs, hdes, hsync, h]
    | none => simp [ho, hd, hobs, hdes]
  | none =>
    cases hdes : Json.decodeObject? desired with
    | some d => simp [ho, hd, hobs, hdes]
    | none =>
      rw [hobs] at ho
      rw [hdes] at hd
      have h : Satisfies mode observed desired ↔ _ :=
        satisfies_iff_hasPart (by rw [ho]; simp) (by rw [hd]; simp)
      simp [ho, hd, hsync, h]

theorem compare_eq_true_iff :
    compare mode observed desired status = .ok true ↔ InSync mode observed desired status := by
  have hmismatch : ¬ (observed.IsObject ↔ desired.IsObject) →
      ¬ InSync mode observed desired status :=
    fun h hsync => not_satisfies_of_mismatch h hsync.2.2
  rw [compare_eq]
  by_cases ho : observed.IsObject <;> by_cases hd : desired.IsObject <;> simp_all

/-- That texts cannot be compared is an error that names the one that is no object. -/
theorem compare_eq_error_iff {m : FormatMismatch} :
    compare mode observed desired status = .error m ↔
      desired.IsObject ∧ ¬ observed.IsObject ∧ m = ⟨.observed, observed⟩ ∨
        observed.IsObject ∧ ¬ desired.IsObject ∧ m = ⟨.desired, desired⟩ := by
  rw [compare_eq]
  by_cases ho : observed.IsObject <;> by_cases hd : desired.IsObject <;> simp [ho, hd, eq_comm]

end DesiredState
