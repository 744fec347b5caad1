import DesiredState.Proofs.Json.Line
import DesiredState.Proofs.Number.Range

/-!
# Numbers in a text

A number with a fraction or an exponent is read as a floating point number, and as an infinite one
if its magnitude is beyond the range. What a text spells has a constant where it is written again
just if such a number counts: of members with one name only the numbers of the last do.

* `Json.Numeral.magnitude`, `Json.Numeral.InRange`: the numbers that are read as finite ones.
* `Json.Tree.numbers`: the numbers that count.
* `Json.Tree.constant?_value_eq_none_iff`: **a value has no constants just if its numbers are in
  the range.**
-/

namespace DesiredState

namespace Entries

variable {κ α β : Type} [DecidableEq κ]

theorem latest_map_snd (f : α → β) (ps : List (κ × α)) :
    latest (ps.map fun e => (e.1, f e.2)) = (latest ps).map fun e => (e.1, f e.2) := by
  unfold latest
  rw [keys_map_snd, List.map_filterMap, ← List.map_reverse]
  refine List.filterMap_congr fun k _ => ?_
  rw [find?_map_snd, Option.map_map, Option.map_map]
  rfl

theorem mem_of_mem_latest {e : κ × α} {ps : List (κ × α)} (h : e ∈ latest ps) : e ∈ ps := by
  obtain ⟨k, -, hk⟩ := List.mem_filterMap.1 h
  obtain ⟨v, hv, rfl⟩ := Option.map_eq_some_iff.1 hk
  exact List.mem_reverse.1 (mem_of_find? hv)

end Entries

namespace Json

/-! ### Numbers -/

namespace Numeral

/-- The power of ten that is written behind the digits. -/
def power (n : Numeral) : Int :=
  match n.exponent with
  | none => 0
  | some (negative, ds) => if negative then -(Text.digitsVal ds : Int) else Text.digitsVal ds

/-- The digits behind the point. -/
def decimals (n : Numeral) : Text := n.fraction.getD []

/-- The exact magnitude of a number: its digits, with the point where the decimals and the exponent
put it. -/
def magnitude (n : Numeral) : Rat :=
  Text.digitsVal (n.whole ++ n.decimals) * 10 ^ (n.power - n.decimals.length)

/-- The number is an integer, or below the middle between the greatest floating point number and
the next power of two. -/
def InRange (n : Numeral) : Prop := n.isInteger = true ∨ n.magnitude < Binary64.overflow

theorem constant?_meaning_eq_none_iff (n : Numeral) : n.meaning.constant? = none ↔ n.InRange := by
  cases hinteger : n.isInteger with
  | true =>
    have hmeaning : n.meaning.constant? = none := by
      unfold meaning
      rw [if_pos hinteger]
      rfl
    exact iff_of_true hmeaning (.inl hinteger)
  | false =>
    have hmeaning : n.meaning = .float (Binary64.ofDecimal n.negative
        (Text.digitsVal (n.whole ++ n.decimals)) (n.power - n.decimals.length)) := by
      unfold meaning
      rw [hinteger]
      rfl
    rw [hmeaning, Scalar.constant?, Binary64.constant?_eq_none_iff,
      Binary64.isFinite_ofDecimal_iff, InRange, hinteger]
    simp only [Bool.false_eq_true, false_or]
    rfl

end Numeral

/-! ### The numbers that count -/

theorem constantMembers?_eq_none_iff {ms : List (Text × Json)} :
    constantMembers? ms = none ↔ ∀ m ∈ ms, m.2.constant? = none := by
  induction ms with
  | nil => exact iff_of_true rfl (List.forall_mem_nil _)
  | cons m ms ih => rw [constantMembers?, Option.or_eq_none_iff, ih, List.forall_mem_cons]

namespace Tree

mutual

/-- The numbers that count in the value. -/
def numbers : Tree → List Numeral
  | .null | .bool _ | .string _ => []
  | .number n => [n]
  | .arr xs => numbersItems xs
  | .obj ms => (Entries.latest (namedNumbers ms)).flatMap Prod.snd

/-- The numbers of items. -/
def numbersItems : List Tree → List Numeral
  | [] => []
  | x :: xs => numbers x ++ numbersItems xs

/-- The names of members with the numbers of their values. -/
def namedNumbers : List (List StringUnit × Tree) → List (Text × List Numeral)
  | [] => []
  | (units, x) :: ms => (joinUnits units, numbers x) :: namedNumbers ms

end

/-- Members with their names. -/
def named (ms : List (List StringUnit × Tree)) : List (Text × Tree) :=
  ms.map fun m => (joinUnits m.1, m.2)

theorem namedValues_eq (ms : List (List StringUnit × Tree)) :
    namedValues ms = (named ms).map fun e => (e.1, e.2.value) := by
  induction ms with
  | nil => rfl
  | cons m ms ih => rw [namedValues, ih]; rfl

theorem namedNumbers_eq (ms : List (List StringUnit × Tree)) :
    namedNumbers ms = (named ms).map fun e => (e.1, e.2.numbers) := by
  induction ms with
  | nil => rfl
  | cons m ms ih => rw [namedNumbers, ih]; rfl

mutual

/-- **A value has no constants just if the numbers that count are in the range.** -/
theorem constant?_value_eq_none_iff : (x : Tree) →
    (x.value.constant? = none ↔ ∀ n ∈ x.numbers, n.InRange)
  | .null | .bool _ | .string _ => iff_of_true rfl (List.forall_mem_nil _)
  | .number n => by
    rw [numbers, List.forall_mem_singleton]
    exact n.constant?_meaning_eq_none_iff
  | .arr xs => constantItems?_values_eq_none_iff xs
  | .obj ms => by
    -- the last member of a name counts, for its value and for its numbers
    have hlatest : ∀ e ∈ Entries.latest (named ms),
        (e.2.value.constant? = none ↔ ∀ n ∈ e.2.numbers, n.InRange) := fun e he =>
      constant?_named_eq_none_iff ms e (Entries.mem_of_mem_latest he)
    rw [value, constant?, constantMembers?_eq_none_iff, numbers, namedValues_eq, namedNumbers_eq,
      Entries.latest_map_snd, Entries.latest_map_snd, List.forall_mem_map, List.flatMap_map,
      forall₂_congr hlatest]
    simp only [List.mem_flatMap, forall_exists_index, and_imp]
    exact ⟨fun h n e he => h e he n, fun h e he n => h n e he⟩

theorem constantItems?_values_eq_none_iff : (xs : List Tree) →
    (constantItems? (values xs) = none ↔ ∀ n ∈ numbersItems xs, n.InRange)
  | [] => iff_of_true rfl (List.forall_mem_nil _)
  | x :: xs => by
    rw [values, constantItems?, Option.or_eq_none_iff, numbersItems, List.forall_mem_append,
      constant?_value_eq_none_iff x, constantItems?_values_eq_none_iff xs]

theorem constant?_named_eq_none_iff : (ms : List (List StringUnit × Tree)) → ∀ e ∈ named ms,
    (e.2.value.constant? = none ↔ ∀ n ∈ e.2.numbers, n.InRange)
  | [], _, he => absurd he List.not_mem_nil
  | (units, x) :: ms, e, he => by
    rcases List.mem_cons.1 he with rfl | he
    · exact constant?_value_eq_none_iff x
    · exact constant?_named_eq_none_iff ms e he

end

end Tree

end Json

end DesiredState
