import DesiredState.Proofs.Comparison.Ordered

/-!
# The two modes side by side

What is contained with arrays in order is contained with arrays in any order. First claims find the
pairing of item with item, for when the items so far have claimed the places in front, the next one
finds its own place first. So a live state that is in sync in the one mode is in sync in the other,
and whether texts can be compared at all is no matter of the mode.

* `Json.isWithin_unordered`: **ordered containment is unordered containment.**
* `verdict_modes`: **verdicts and errors in the two modes.**
-/

namespace DesiredState

namespace Json

variable {a b : Json} {vs ws : List Json}

/-- Items that are contained pair by pair claim the places that they are compared with. -/
theorem isWithin_arr_of_forall₂
    (h : List.Forall₂ (fun v w => isWithin .unordered v w = true) vs ws) :
    isWithin .unordered (.arr vs) (.arr ws) = true := by
  have hclaims := claimAll_append h [] []
  rw [List.append_nil, List.append_nil] at hclaims
  rw [isWithin_arr_unordered, hclaims]
  rfl

/-- **What is contained with arrays in order is contained with arrays in any order.** -/
theorem isWithin_unordered (h : isWithin .ordered a b = true) : isWithin .unordered a b = true := by
  induction a using inductionOn generalizing b with
  | scalar s =>
    obtain ⟨t, rfl⟩ := exists_scalar_of_isWithin h
    rw [isWithin_scalar] at h ⊢
    exact h
  | arr vs ih =>
    obtain ⟨ws, rfl⟩ := exists_arr_of_isWithin h
    rw [isWithin_arr_ordered, isWithinEach_iff] at h
    -- the mode changes inside every pair of items as well
    have hpairs := (List.forall₂_and_left vs ws).2 ⟨fun v hv => @ih v hv, h⟩
    exact isWithin_arr_of_forall₂ (hpairs.imp fun v w hvw => hvw.1 hvw.2)
  | obj ms ih =>
    obtain ⟨ns, rfl⟩ := exists_obj_of_isWithin h
    rw [isWithin_obj_iff] at h ⊢
    intro e he
    obtain ⟨w, hw, hew⟩ := h e he
    exact ⟨w, hw, ih e he hew⟩

end Json

variable {observed desired : Text} {status : Int}

theorem Satisfies.unordered (h : Satisfies .ordered observed desired) :
    Satisfies .unordered observed desired := by
  rcases h with ⟨o, d, ho, hd, hcontains⟩ | hplain
  · exact .inl ⟨o, d, ho, hd, Json.isWithin_unordered hcontains⟩
  · exact .inr hplain

theorem InSync.unordered (h : InSync .ordered observed desired status) :
    InSync .unordered observed desired status :=
  ⟨h.1, h.2.1, h.2.2.unordered⟩

/-- **The two modes.** What is contained in ordered mode is contained in unordered mode; so is the
verdict that a live state is in sync, and the errors of the two modes are the same. -/
theorem verdict_modes :
    (∀ observed desired : Json, Json.contains .ordered observed desired = true →
        Json.contains .unordered observed desired = true) ∧
      ∀ (observed desired : Text) (status : Int),
        (compare .ordered observed desired status = .ok true →
          compare .unordered observed desired status = .ok true) ∧
        ∀ m, compare .ordered observed desired status = .error m ↔
          compare .unordered observed desired status = .error m := by
  refine ⟨fun _ _ => Json.isWithin_unordered,
    fun observed desired status => ⟨fun h => ?_, fun m => ?_⟩⟩
  · rw [compare_eq_true_iff] at h ⊢
    exact h.unordered
  · rw [compare_eq_error_iff, compare_eq_error_iff]

/-- The laws at arrays inside arrays. -/
theorem verdict_modes_nested :
    compare .ordered "\x7b\"a\":[1,[\x7b\"b\":2,\"c\":3\x7d]]\x7d"
        "\x7b\"a\":[1,[\x7b\"b\":2\x7d]]\x7d" 200 = .ok true ∧
      compare .unordered "\x7b\"a\":[1,[\x7b\"b\":2,\"c\":3\x7d]]\x7d"
        "\x7b\"a\":[1,[\x7b\"b\":2\x7d]]\x7d" 200 = .ok true := by
  have hordered : compare .ordered "\x7b\"a\":[1,[\x7b\"b\":2,\"c\":3\x7d]]\x7d"
      "\x7b\"a\":[1,[\x7b\"b\":2\x7d]]\x7d" 200 = .ok true := by cbv
  exact ⟨hordered, (verdict_modes.2 _ _ _).1 hordered⟩

end DesiredState
