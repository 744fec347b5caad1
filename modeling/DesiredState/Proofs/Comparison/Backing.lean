import DesiredState.Proofs.Comparison.Ordered

/-!
# What stands behind a positive answer

When arrays are compared in any order, a positive answer is backed part by part: a desired member
by the observed one of its name, the items of a desired array by observed items of their own, and a
scalar by an equal one. Of arrays of scalars the answer is exact, for then it is a matter of counting.

* `Json.IsBacked`: each pair of a relation is backed by pairs of parts.
* `Json.embeds_iff_exists_isBacked`: `Embeds` is the largest of these relations.
* `Json.isBacked_contains`: **the pairs with a positive answer are backed by each other.**
* `Json.contains_scalars_iff`: **arrays of scalars are counted.**
-/

namespace DesiredState

theorem Scalar.equivalence_same : Equivalence fun s t : Scalar => s.same t = true where
  refl s := s.same_self
  symm h := Scalar.same_iff.2 (Scalar.same_iff.1 h).symm
  trans h h' := Scalar.same_iff.2 ((Scalar.same_iff.1 h).trans (Scalar.same_iff.1 h'))

instance (s t : Scalar) : Decidable (s.IsEqual t) := decidable_of_iff _ Scalar.same_iff

namespace Json

/-- Each pair of the relation is backed by pairs of parts: a desired scalar by an equal one, the
items of a desired array by observed items of their own, and the members of a desired object by the
observed ones of the same names. -/
structure IsBacked (R : (desired observed : Json) → Prop) : Prop where
  scalar {s : Scalar} {observed : Json} (h : R (.scalar s) observed) :
    ∃ t, observed = .scalar t ∧ s.IsEqual t
  arr {wants : List Json} {observed : Json} (h : R (.arr wants) observed) :
    ∃ helds, observed = .arr helds ∧
      ∃ f : Fin wants.length → Fin helds.length, Function.Injective f ∧
        ∀ i, R (wants.get i) (helds.get (f i))
  obj {want : List (Text × Json)} {observed : Json} (h : R (.obj want) observed) :
    ∃ held, observed = .obj held ∧
      ∀ e ∈ want, ∃ v, Entries.find? e.1 held = some v ∧ R e.2 v

variable {R : Json → Json → Prop} {desired observed : Json}

/-- What is backed all the way down is contained by the meaning of the word. -/
theorem IsBacked.embeds (hR : IsBacked R) (h : R desired observed) : Embeds desired observed := by
  unfold Embeds
  induction desired using inductionOn generalizing observed with
  | scalar s =>
    obtain ⟨t, rfl, hst⟩ := hR.scalar h
    rw [WithinBy]
    exact Scalar.same_iff.2 hst
  | arr wants ih =>
    obtain ⟨helds, rfl, f, hf, hitems⟩ := hR.arr h
    rw [WithinBy]
    exact ⟨f, hf, fun i => ih _ (List.getElem_mem i.isLt) (hitems i)⟩
  | obj want ih =>
    obtain ⟨held, rfl, hmembers⟩ := hR.obj h
    rw [WithinBy]
    intro e he
    obtain ⟨v, hv, hev⟩ := hmembers e he
    exact ⟨v, hv, ih e he hev⟩

theorem isBacked_embeds : IsBacked Embeds where
  scalar {s observed} h := by
    unfold Embeds at h
    cases observed with
    | scalar t =>
      rw [WithinBy] at h
      exact ⟨t, rfl, Scalar.same_iff.1 h⟩
    | arr helds => simp [WithinBy] at h
    | obj held => simp [WithinBy] at h
  arr {wants observed} h := by
    unfold Embeds at h
    cases observed with
    | scalar t => simp [WithinBy] at h
    | arr helds =>
      rw [WithinBy] at h
      exact ⟨helds, rfl, h⟩
    | obj held => simp [WithinBy] at h
  obj {want observed} h := by
    unfold Embeds at h
    cases observed with
    | scalar t => simp [WithinBy] at h
    | arr helds => simp [WithinBy] at h
    | obj held =>
      rw [WithinBy] at h
      exact ⟨held, rfl, h⟩

/-- Containment by the meaning of the word is the largest relation that is backed. -/
theorem embeds_iff_exists_isBacked :
    Embeds desired observed ↔ ∃ R, IsBacked R ∧ R desired observed :=
  ⟨fun h => ⟨Embeds, isBacked_embeds, h⟩, fun ⟨_, hR, h⟩ => hR.embeds h⟩

/-- **The pairs with a positive answer are backed by each other.** -/
theorem isBacked_contains :
    IsBacked fun desired observed => contains .unordered observed desired = true where
  scalar {s observed} h := by
    obtain ⟨t, rfl⟩ := exists_scalar_of_isWithin h
    rw [contains, isWithin_scalar] at h
    exact ⟨t, rfl, Scalar.same_iff.1 h⟩
  arr {wants observed} h := by
    obtain ⟨helds, rfl⟩ := exists_arr_of_isWithin h
    rw [contains, isWithin_arr_unordered, claimAll_iff_firstFit] at h
    exact ⟨helds, rfl, h.assignable⟩
  obj {want observed} h := by
    obtain ⟨held, rfl⟩ := exists_obj_of_isWithin h
    exact ⟨held, rfl, isWithin_obj_iff.1 h⟩

/-- **Arrays of scalars are counted.** -/
theorem contains_scalars_iff {wants helds : List Scalar} :
    contains .unordered (.arr (helds.map .scalar)) (.arr (wants.map .scalar)) = true ↔
      ∀ s : Scalar, wants.countP (fun w => s.IsEqual w) ≤ helds.countP (fun h => s.IsEqual h) := by
  -- claims see nothing of the items but which of them are contained in which
  have hscalars : claimAll (isWithin .unordered) (wants.map .scalar) (helds.map .scalar) =
      claimAll Scalar.same wants helds := by
    refine claimAll_eq_of_like (S := fun v t => v = .scalar t) ?_ ?_
    · exact List.forall₂_map_left_iff.2 (List.forall₂_same.2 fun t _ => rfl)
    · refine List.forall₂_map_left_iff.2 (List.forall₂_same.2 fun s _ v t hv => ?_)
      rw [hv, isWithin_scalar]
  have hequal : ∀ s : Scalar, s.same = fun t => decide (s.IsEqual t) := fun s => by
    funext t
    rw [Bool.eq_iff_iff, Scalar.same_iff, decide_eq_true_iff]
  rw [contains, isWithin_arr_unordered, hscalars,
    claimAll_iff_countP Scalar.equivalence_same]
  simp only [hequal]

/-- **Unordered containment is sound**, at every pair of parts that the answer rests on and all the
way down; of arrays of scalars it is exact. -/
theorem contains_unordered_backed :
    IsBacked (fun desired observed => contains .unordered observed desired = true) ∧
      (∀ desired observed, contains .unordered observed desired = true →
        Embeds desired observed) ∧
      ∀ wants helds : List Scalar,
        contains .unordered (.arr (helds.map .scalar)) (.arr (wants.map .scalar)) = true ↔
          ∀ s : Scalar,
            wants.countP (fun w => s.IsEqual w) ≤ helds.countP (fun h => s.IsEqual h) :=
  ⟨isBacked_contains, fun _ _ => isBacked_contains.embeds, fun _ _ => contains_scalars_iff⟩

/-- The laws at items that stand in another order, and at a number that is asked for twice and
spelled in two ways. -/
theorem contains_unordered_backed_swapped :
    contains .unordered (.arr [wide, .int 1]) (.arr [.int 1, narrow]) = true ∧
      Embeds (.arr [.int 1, narrow]) (.arr [wide, .int 1]) ∧
      contains .unordered (.arr ([.int 1, .null, .float Binary64.one].map .scalar))
        (.arr ([.int 1, .int 1].map .scalar)) = true ∧
      ∀ s : Scalar, [Scalar.int 1, .int 1].countP (fun w => s.IsEqual w) ≤
        [Scalar.int 1, .null, .float Binary64.one].countP (fun h => s.IsEqual h) := by
  obtain ⟨-, hembeds, hcount⟩ := contains_unordered_backed
  have hswapped : contains .unordered (.arr [wide, .int 1]) (.arr [.int 1, narrow]) = true := by cbv
  have htwice : contains .unordered (.arr ([.int 1, .null, .float Binary64.one].map .scalar))
      (.arr ([.int 1, .int 1].map .scalar)) = true := by decide +kernel
  exact ⟨hswapped, hembeds _ _ hswapped, htwice, (hcount _ _).1 htwice⟩

end Json

end DesiredState
