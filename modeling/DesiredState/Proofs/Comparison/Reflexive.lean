import DesiredState.Proofs.Comparison.Unordered
import DesiredState.Proofs.Comparison.Verdict
import DesiredState.Proofs.Json.Decoded
import Mathlib.Data.List.Forall2

/-!
# Every text has what it asks for itself

A value that does not repeat a name in any object is contained in itself, in either mode, and what
is read from a text is such a value. So a text satisfies itself, be it JSON or not.

* `Json.isWithin_self`: **a value is contained in itself.**
* `satisfies_self`: **a text satisfies itself.**
-/

namespace DesiredState

theorem Scalar.same_self (s : Scalar) : s.same s = true := by
  cases s <;> simp [Scalar.same, Scalar.number?]

namespace Json

variable {mode : ArrayMode} {wants helds : List Json}

/-- Items in order are compared pair by pair. -/
theorem isWithinEach_iff :
    isWithinEach mode wants helds = true ↔
      List.Forall₂ (fun want held => isWithin mode want held = true) wants helds := by
  induction wants generalizing helds with
  | nil =>
    cases helds with
    | nil => simp [isWithinEach]
    | cons h helds => simp [isWithinEach]
  | cons w wants ih =>
    cases helds with
    | nil => simp [isWithinEach]
    | cons h helds => rw [isWithinEach, Bool.and_eq_true, ih, List.forall₂_cons]

theorem isWithin_arr_ordered :
    isWithin .ordered (.arr wants) (.arr helds) = isWithinEach .ordered wants helds := by
  rw [isWithin]

/-- Items that are contained in themselves make an array that is contained in itself. -/
theorem isWithin_arr_self (h : ∀ w ∈ wants, isWithin mode w w = true) :
    isWithin mode (.arr wants) (.arr wants) = true := by
  cases mode with
  | ordered =>
    rw [isWithin_arr_ordered, isWithinEach_iff, List.forall₂_same]
    exact h
  | unordered =>
    rw [isWithin_arr_unordered]
    exact claimAll_self h

/-- **A value is contained in itself**, in either mode. -/
theorem isWithin_self {v : Json} (h : v.Distinct) : isWithin mode v v = true := by
  match v with
  | .scalar s =>
    rw [isWithin_scalar]
    exact s.same_self
  | .arr items =>
    rw [Distinct, distinctItems_iff] at h
    exact isWithin_arr_self fun w hw => isWithin_self (h w hw)
  | .obj members =>
    rw [Distinct, distinctMembers_iff] at h
    obtain ⟨hnodup, hmembers⟩ := h
    rw [isWithin_obj_iff]
    intro e he
    exact ⟨e.2, Entries.find?_of_mem hnodup he, isWithin_self (hmembers e he)⟩
termination_by v
decreasing_by
  · have hlt := List.sizeOf_lt_of_mem hw
    rw [Json.arr.sizeOf_spec]
    omega
  · exact sizeOf_lt_obj he

end Json

/-- **A text satisfies itself**, as JSON or as plain text. -/
theorem satisfies_self (mode : ArrayMode) (t : Text) : Satisfies mode t t := by
  by_cases h : t.IsObject
  · obtain ⟨members, hmembers⟩ := h
    rw [satisfies_iff_contains hmembers hmembers]
    exact Json.isWithin_self (Json.distinct_of_decode hmembers)
  · exact .inr ⟨h, h, List.infix_refl t⟩

end DesiredState
