import DesiredState.Json.Decode
import DesiredState.Proofs.Comparison.Assignment

/-!
# Containment with unordered arrays

What it means that each desired item is contained in an observed item of its own, and when first
claims come to that answer.

* `Json.Embeds`: the meaning, by any assignment of items to items at every level.
* `Json.FirstFits`: the same with the one assignment that first claims make.
* `Json.isWithin_iff_firstFits`, `Json.FirstFits.embeds`: **first claims decide `FirstFits`, which is
  more than `Embeds`.**
* `Json.isWithin_iff_embeds`: where rivals are ordered, they decide `Embeds`.
* `Json.contains_arr_perm_iff`: the answer is positive in every order of the items if and only if
  no desired item can get stuck.
-/

namespace DesiredState

namespace Json

theorem sizeOf_lt_obj {members : List (Text × Json)} {e : Text × Json} (h : e ∈ members) :
    sizeOf e.2 < sizeOf (Json.obj members) := by
  have hlt := List.sizeOf_lt_of_mem h
  obtain ⟨k, v⟩ := e
  rw [Prod.mk.sizeOf_spec] at hlt
  rw [Json.obj.sizeOf_spec]
  dsimp only
  omega

theorem sizeOf_lt_arr {items : List Json} (i : Fin items.length) :
    sizeOf items[i] < sizeOf (Json.arr items) := by
  have hlt := List.sizeOf_lt_of_mem (List.getElem_mem i.isLt)
  rw [Json.arr.sizeOf_spec, Fin.getElem_fin]
  omega

/-- The desired value is contained in the observed one, where `Assigned` says how the items of a
desired array are to be assigned to the items of an observed one that contain them. -/
def WithinBy (Assigned : ∀ {n m : ℕ}, (Fin n → Fin m → Prop) → Prop) :
    (desired observed : Json) → Prop
  | .obj want, .obj held =>
    ∀ e ∈ want, ∃ h, Entries.find? e.1 held = some h ∧ WithinBy Assigned e.2 h
  | .arr want, .arr held =>
    Assigned fun (i : Fin want.length) (j : Fin held.length) => WithinBy Assigned want[i] held[j]
  | .scalar want, .scalar held => want.same held = true
  | _, _ => False
termination_by desired => desired
decreasing_by
  · exact sizeOf_lt_obj ‹e ∈ want›
  · exact sizeOf_lt_arr i

/-- The desired value is contained in the observed one: the members of a desired object have their
counterparts, the items of a desired array have observed items of their own, by any assignment, and
scalars are the same. -/
def Embeds (desired observed : Json) : Prop := WithinBy Assignable desired observed

/-- The same with first claims at each array. -/
def FirstFits (desired observed : Json) : Prop := WithinBy FirstFit desired observed

/-- At each pair of arrays, of two desired items that are contained in one observed item, the
earlier one is contained only where the later one is. -/
def OrdersRivals : (desired observed : Json) → Prop
  | .obj want, .obj held =>
    ∀ e ∈ want, ∀ h, Entries.find? e.1 held = some h → OrdersRivals e.2 h
  | .arr want, .arr held =>
    (RivalsOrdered fun (i : Fin want.length) (j : Fin held.length) => Embeds want[i] held[j]) ∧
      ∀ (i : Fin want.length) (j : Fin held.length), OrdersRivals want[i] held[j]
  | _, _ => True
termination_by desired => desired
decreasing_by
  · exact sizeOf_lt_obj ‹e ∈ want›
  · exact sizeOf_lt_arr i

variable {mode : ArrayMode} {want held : List (Text × Json)} {wants helds : List Json}
  {desired observed : Json}

/-! ### First claims at one level -/

theorem isWithinMembers_iff :
    isWithinMembers mode want held = true ↔
      ∀ e ∈ want, ∃ h, Entries.find? e.1 held = some h ∧ isWithin mode e.2 h = true := by
  induction want with
  | nil => simp [isWithinMembers]
  | cons e want ih =>
    obtain ⟨k, w⟩ := e
    rw [isWithinMembers, Bool.and_eq_true, ih, List.forall_mem_cons]
    refine and_congr_left fun _ => ?_
    cases Entries.find? k held with
    | none => simp
    | some h => simp

/-- The items of unordered arrays are claimed one after the other. -/
theorem isWithinSome_eq_claimAll :
    isWithinSome mode wants helds = claimAll (isWithin mode) wants helds := by
  induction wants generalizing helds with
  | nil => rw [isWithinSome, claimAll]
  | cons w wants ih =>
    rw [isWithinSome, claimAll]
    cases claim (isWithin mode w) helds with
    | none => rfl
    | some rest => exact ih

theorem isWithin_obj_iff :
    isWithin mode (.obj want) (.obj held) = true ↔
      ∀ e ∈ want, ∃ h, Entries.find? e.1 held = some h ∧ isWithin mode e.2 h = true := by
  rw [isWithin, isWithinMembers_iff]

theorem isWithin_arr_unordered :
    isWithin .unordered (.arr wants) (.arr helds) =
      claimAll (isWithin .unordered) wants helds := by
  rw [isWithin, isWithinSome_eq_claimAll]

theorem isWithin_scalar {want held : Scalar} :
    isWithin mode (.scalar want) (.scalar held) = want.same held := by
  rw [isWithin]

section Kinds

variable (hobj : ∀ want held, desired = .obj want → observed = .obj held → False)
  (harr : ∀ want held, desired = .arr want → observed = .arr held → False)
  (hscalar : ∀ want held, desired = .scalar want → observed = .scalar held → False)

include hobj harr hscalar

/-- Nothing is contained in a value of another kind. -/
theorem isWithin_of_kinds : isWithin mode desired observed = false :=
  isWithin.eq_5 mode desired observed hobj harr hscalar

theorem not_withinBy_of_kinds {Assigned : ∀ {n m : ℕ}, (Fin n → Fin m → Prop) → Prop} :
    ¬ WithinBy Assigned desired observed := by
  rw [WithinBy.eq_4 Assigned desired observed hobj harr hscalar]
  exact id

end Kinds

/-! ### Every level -/

/-- **What first claims decide.** In unordered mode a value is found to be contained if and only if
at every level the assignment by first claims is complete. -/
theorem isWithin_iff_firstFits :
    isWithin .unordered desired observed = true ↔ FirstFits desired observed := by
  unfold FirstFits
  induction desired, observed using WithinBy.induct with
  | case1 want held ih =>
    rw [isWithin_obj_iff, WithinBy]
    exact forall₂_congr fun e he => exists_congr fun h => and_congr_right fun _ => ih e he h
  | case2 wants helds ih =>
    rw [isWithin_arr_unordered, claimAll_iff_firstFit, WithinBy]
    simp only [ih]
  | case3 want held => rw [isWithin_scalar, WithinBy]
  | case4 desired observed hobj harr hscalar =>
    exact iff_of_false (isWithin_of_kinds hobj harr hscalar ▸ Bool.false_ne_true)
      (not_withinBy_of_kinds hobj harr hscalar)

/-- The assignment by first claims is an assignment, at every level. -/
theorem FirstFits.embeds (h : FirstFits desired observed) : Embeds desired observed := by
  unfold FirstFits at h
  unfold Embeds
  induction desired, observed using WithinBy.induct with
  | case1 want held ih =>
    rw [WithinBy] at h ⊢
    intro e he
    obtain ⟨v, hv, hwithin⟩ := h e he
    exact ⟨v, hv, ih e he v hwithin⟩
  | case2 wants helds ih =>
    rw [WithinBy] at h ⊢
    exact h.assignable.mono ih
  | case3 want held =>
    rw [WithinBy] at h ⊢
    exact h
  | case4 desired observed hobj harr hscalar =>
    exact absurd h (not_withinBy_of_kinds hobj harr hscalar)

/-- Where rivals are ordered, first claims come to the same as any assignment. -/
theorem isWithin_iff_embeds (h : OrdersRivals desired observed) :
    isWithin .unordered desired observed = true ↔ Embeds desired observed := by
  unfold Embeds
  induction desired, observed using WithinBy.induct with
  | case1 want held ih =>
    rw [OrdersRivals] at h
    rw [isWithin_obj_iff, WithinBy]
    refine forall₂_congr fun e he => exists_congr fun v => and_congr_right fun hv => ?_
    exact ih e he v (h e he v hv)
  | case2 wants helds ih =>
    rw [OrdersRivals] at h
    obtain ⟨hrivals, hitems⟩ := h
    -- item by item both sides are the same relation
    have hitem : ∀ (i : Fin wants.length) (j : Fin helds.length),
        isWithin .unordered wants[i] helds[j] = true ↔ WithinBy Assignable wants[i] helds[j] :=
      fun i j => ih i j (hitems i j)
    rw [isWithin_arr_unordered, WithinBy]
    constructor
    · intro hall
      have hfit := claimAll_iff_firstFit.1 hall
      exact hfit.assignable.mono fun i j => (hitem i j).1
    · intro hassign
      refine claimAll_of_assignable (hassign.mono fun i j => (hitem i j).2) ?_
      simp only [hitem]
      exact hrivals
  | case3 want held => rw [isWithin_scalar, WithinBy]
  | case4 desired observed hobj harr hscalar =>
    exact iff_of_false (isWithin_of_kinds hobj harr hscalar ▸ Bool.false_ne_true)
      (not_withinBy_of_kinds hobj harr hscalar)

/-- **Every order of the items.** Two unordered arrays are found to be contained whatever the order
of their items if and only if no desired item can get stuck. -/
theorem contains_arr_perm_iff :
    (∀ wants' helds', wants.Perm wants' → helds.Perm helds' →
        contains .unordered (.arr helds') (.arr wants') = true) ↔
      ¬ Stuck (isWithin .unordered) wants helds := by
  rw [← claimAll_perm_iff]
  simp only [contains, isWithin_arr_unordered]

/-- **Unordered containment.** The answer is positive if and only if first claims are complete at
every level; then the desired value is contained by the meaning of the word. The converse holds
where rivals are ordered, and two arrays get a positive answer in every order of their items if and
only if no desired item can get stuck. -/
theorem contains_unordered (observed desired : Json) :
    (contains .unordered observed desired = true ↔ FirstFits desired observed) ∧
      (FirstFits desired observed → Embeds desired observed) ∧
      (OrdersRivals desired observed → Embeds desired observed →
        contains .unordered observed desired = true) ∧
      ∀ wants helds, desired = .arr wants → observed = .arr helds →
        ((∀ wants' helds', wants.Perm wants' → helds.Perm helds' →
            contains .unordered (.arr helds') (.arr wants') = true) ↔
          ¬ Stuck (fun want held => contains .unordered held want) wants helds) := by
  refine ⟨isWithin_iff_firstFits, FirstFits.embeds, fun h => (isWithin_iff_embeds h).2, ?_⟩
  rintro wants helds - -
  exact contains_arr_perm_iff

/-- An object with one member. -/
def narrow : Json := .obj [("a", .int 1)]

/-- An object with that member and another one. -/
def wide : Json := .obj [("a", .int 1), ("b", .int 2)]

theorem narrow_embeds {observed : Json} (h : observed = narrow ∨ observed = wide) :
    Embeds narrow observed := by
  refine (isWithin_iff_firstFits.1 ?_).embeds
  rcases h with rfl | rfl
  · cbv
  · cbv

theorem wide_embeds_wide : Embeds wide wide :=
  (isWithin_iff_firstFits.1 (by cbv)).embeds

/-- Either array is contained in the other one, item by item the other way round. -/
theorem narrow_wide_embeds : Embeds (.arr [narrow, wide]) (.arr [wide, narrow]) := by
  rw [Embeds, WithinBy]
  refine ⟨Fin.rev, Fin.rev_injective, fun i => ?_⟩
  match i with
  | 0 => exact narrow_embeds (.inl rfl)
  | 1 => exact wide_embeds_wide

theorem wide_narrow_embeds : Embeds (.arr [wide, narrow]) (.arr [narrow, wide]) := by
  rw [Embeds, WithinBy]
  refine ⟨Fin.rev, Fin.rev_injective, fun i => ?_⟩
  match i with
  | 0 => exact wide_embeds_wide
  | 1 => exact narrow_embeds (.inl rfl)

/-- The law at an array that asks for the more demanding item first. -/
theorem contains_demanding_first :
    OrdersRivals (.arr [wide, narrow]) (.arr [narrow, wide]) ∧
      contains .unordered (.arr [narrow, wide]) (.arr [wide, narrow]) = true := by
  have hrivals : OrdersRivals (.arr [wide, narrow]) (.arr [narrow, wide]) := by
    rw [OrdersRivals]
    refine ⟨fun i k hik j j' _ _ _ => ?_, fun i j => ?_⟩
    · -- the later one of the two is `narrow`, which both observed items contain
      match k, j' with
      | 0, _ => exact absurd hik (Fin.not_lt_zero i)
      | 1, 0 => exact narrow_embeds (.inl rfl)
      | 1, 1 => exact narrow_embeds (.inr rfl)
    · match i, j with
      | 0, 0 | 0, 1 | 1, 0 | 1, 1 => simp [OrdersRivals, narrow, wide]
  exact ⟨hrivals, (contains_unordered _ _).2.2.1 hrivals wide_narrow_embeds⟩

/-- **First claims can starve a later item.** Both texts are JSON, each desired item has an observed
item of its own, and in the other order of the desired items the answer is positive; in this order
the first item claims the only one that contains the second. -/
theorem narrow_starves_wide :
    Json.decode "[\x7b\"a\":1,\"b\":2\x7d,\x7b\"a\":1\x7d]" = .ok (.arr [wide, narrow]) ∧
      Json.decode "[\x7b\"a\":1\x7d,\x7b\"a\":1,\"b\":2\x7d]" = .ok (.arr [narrow, wide]) ∧
      Embeds (.arr [narrow, wide]) (.arr [wide, narrow]) ∧
      contains .unordered (.arr [wide, narrow]) (.arr [narrow, wide]) = false ∧
      contains .unordered (.arr [wide, narrow]) (.arr [wide, narrow]) = true :=
  ⟨by cbv, by cbv, narrow_wide_embeds, by cbv, by cbv⟩

end Json

end DesiredState
