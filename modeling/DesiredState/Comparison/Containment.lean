import DesiredState.Json.Value

/-!
# Containment of JSON values

A desired value is contained in an observed one when every name of a desired object is present
with a contained value, and scalars are the same. Arrays are compared in one of two modes: item by
item at equal length, or each desired item in an observed item of its own.

* `Json.isWithin`: the desired value is contained in the observed one.
* `claim`: the first item that passes a test, taken out of a list. In unordered arrays each desired
  item claims the first observed item that is left and contains it.
-/

namespace DesiredState

/-- How arrays are compared. -/
inductive ArrayMode
  | ordered
  | unordered
  deriving DecidableEq

/-- The word for a mode. -/
def ArrayMode.name : ArrayMode → Text
  | .ordered => "ordered"
  | .unordered => "unordered"

/-- The mode with this name. -/
def ArrayMode.ofName? (t : Text) : Option ArrayMode :=
  if t = ArrayMode.ordered.name then some .ordered
  else if t = ArrayMode.unordered.name then some .unordered
  else none

/-- What is left of a list without its first item that passes the test, if one does. -/
def claim {α : Type} (p : α → Bool) : List α → Option (List α)
  | [] => none
  | x :: xs => if p x then some xs else (claim p xs).map (x :: ·)

theorem claim_eq_none_iff {α : Type} {p : α → Bool} {xs : List α} :
    claim p xs = none ↔ ∀ x ∈ xs, p x = false := by
  induction xs with
  | nil => simp [claim]
  | cons x xs ih => cases h : p x <;> simp [claim, h, ih]

/-- A claim takes out one item that passes, and nothing before it passes. -/
theorem claim_eq_some_iff {α : Type} {p : α → Bool} {xs ys : List α} :
    claim p xs = some ys ↔
      ∃ a x b, xs = a ++ x :: b ∧ ys = a ++ b ∧ p x = true ∧ ∀ z ∈ a, p z = false := by
  induction xs generalizing ys with
  | nil => simp [claim]
  | cons x xs ih =>
    cases h : p x with
    | true =>
      simp only [claim, h, if_true, Option.some.injEq]
      constructor
      · rintro rfl
        exact ⟨[], x, xs, rfl, rfl, h, by simp⟩
      · rintro ⟨a, z, b, hx, rfl, _, ha⟩
        cases a with
        | nil => simp at hx; exact hx.2
        | cons y a =>
          simp at hx
          simp [← hx.1, h] at ha
    | false =>
      simp only [claim, h, Bool.false_eq_true, if_false, Option.map_eq_some_iff, ih]
      constructor
      · rintro ⟨_, ⟨a, z, b, rfl, rfl, hz, ha⟩, rfl⟩
        exact ⟨x :: a, z, b, rfl, rfl, hz, by simpa [h] using ha⟩
      · rintro ⟨a, z, b, hx, rfl, hz, ha⟩
        cases a with
        | nil => simp at hx; simp [← hx.1, h] at hz
        | cons y a =>
          simp only [List.cons_append, List.cons.injEq] at hx
          obtain ⟨rfl, rfl⟩ := hx
          exact ⟨a ++ b, ⟨a, z, b, rfl, rfl, hz, fun w hw => ha w (List.mem_cons_of_mem _ hw)⟩, rfl⟩

namespace Json

mutual

/-- The desired value is contained in the observed one. -/
def isWithin (mode : ArrayMode) : (desired observed : Json) → Bool
  | .obj want, .obj held => isWithinMembers mode want held
  | .arr want, .arr held =>
    match mode with
    | .ordered => isWithinEach mode want held
    | .unordered => isWithinSome mode want held
  | .scalar want, .scalar held => want.same held
  | _, _ => false

/-- Each desired member is present in the observed members with a value that contains its own. -/
def isWithinMembers (mode : ArrayMode) : (want held : List (Text × Json)) → Bool
  | [], _ => true
  | (k, w) :: want, held =>
    (match Entries.find? k held with
      | some h => isWithin mode w h
      | none => false) && isWithinMembers mode want held

/-- The lists are equally long and each desired item is contained in the observed item at its
place. -/
def isWithinEach (mode : ArrayMode) : (want held : List Json) → Bool
  | [], [] => true
  | w :: want, h :: held => isWithin mode w h && isWithinEach mode want held
  | _, _ => false

/-- Each desired item in turn claims an observed item that contains it. -/
def isWithinSome (mode : ArrayMode) : (want held : List Json) → Bool
  | [], _ => true
  | w :: want, held =>
    match claim (fun h => isWithin mode w h) held with
    | some rest => isWithinSome mode want rest
    | none => false

end

/-- The observed value contains the desired one. -/
def contains (mode : ArrayMode) (observed desired : Json) : Bool := isWithin mode desired observed

end Json

end DesiredState
