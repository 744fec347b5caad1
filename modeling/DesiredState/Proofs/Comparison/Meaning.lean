import DesiredState.Proofs.Comparison.Ordered

/-!
# The verdict depends on what texts mean

How a JSON object is spelled does not matter to a comparison: not the order of its members, nor
whether a number is written with a fraction or an exponent, nor escapes and blanks. Equal values
have equal parts under the same names and at the same places, so that every search, and first claims
among them, ends alike in both.

* `Json.isWithin_congr`: **equal values contain the same values, and are contained in the same.**
* `Text.IsRespelled`: two spellings of one object.
* `compare_by_meaning`: **the verdict does not depend on the spelling, and on nothing less than the
  value.**
-/

namespace DesiredState

theorem Scalar.IsEqual.same_congr {s s' t t' : Scalar} (hs : s.IsEqual s') (ht : t.IsEqual t') :
    s.same t = s'.same t' := by
  rw [Bool.eq_iff_iff, Scalar.same_iff, Scalar.same_iff]
  exact ⟨fun h => hs.symm.trans (h.trans ht), fun h => hs.trans (h.trans ht.symm)⟩

namespace Json

variable {mode : ArrayMode} {a a' b b' : Json} {vs vs' ws ws' : List Json}
  {ms ms' ns ns' : List (Text × Json)}

/-! ### Equal values have equal parts -/

theorem isEqual_arr_iff : IsEqual (.arr vs) (.arr ws) ↔ List.Forall₂ IsEqual vs ws := by
  rw [IsEqual, forall₂_iff_places]
  rfl

namespace IsEqual

theorem exists_scalar {s : Scalar} (h : IsEqual (.scalar s) b) :
    ∃ t, b = .scalar t ∧ s.IsEqual t := by
  cases b with
  | scalar t => exact ⟨t, rfl, by rwa [IsEqual] at h⟩
  | arr ws => simp [IsEqual] at h
  | obj ns => simp [IsEqual] at h

theorem exists_arr (h : IsEqual (.arr vs) b) : ∃ ws, b = .arr ws ∧ List.Forall₂ IsEqual vs ws := by
  cases b with
  | scalar t => simp [IsEqual] at h
  | arr ws => exact ⟨ws, rfl, isEqual_arr_iff.1 h⟩
  | obj ns => simp [IsEqual] at h

theorem exists_obj (h : IsEqual (.obj ms) b) : ∃ ns, b = .obj ns := by
  cases b with
  | scalar t => simp [IsEqual] at h
  | arr ws => simp [IsEqual] at h
  | obj ns => exact ⟨ns, rfl⟩

theorem symm (h : IsEqual a b) : IsEqual b a := by
  induction a using inductionOn generalizing b with
  | scalar s =>
    obtain ⟨t, rfl, hst⟩ := h.exists_scalar
    rw [IsEqual]
    exact hst.symm
  | arr vs ih =>
    obtain ⟨ws, rfl, hvw⟩ := h.exists_arr
    have hboth := (List.forall₂_and_left vs ws).2 ⟨fun v hv => @ih v hv, hvw⟩
    rw [isEqual_arr_iff]
    exact (hboth.imp fun v w hw => hw.1 hw.2).flip
  | obj ms ih =>
    obtain ⟨ns, rfl⟩ := h.exists_obj
    rw [IsEqual] at h ⊢
    obtain ⟨hkeys, hvalues⟩ := h
    exact ⟨fun k => (hkeys k).symm,
      fun e he e' he' hk => ih e' he' (hvalues e' he' e he hk.symm)⟩

/-- Among equal members a name leads to equal values. -/
theorem exists_find? (h : IsEqual (.obj ns) (.obj ns')) {k : Text} {v : Json}
    (hv : Entries.find? k ns = some v) : ∃ v', Entries.find? k ns' = some v' ∧ IsEqual v v' := by
  rw [IsEqual] at h
  obtain ⟨hkeys, hvalues⟩ := h
  have hmem := Entries.mem_of_find? hv
  have hk : k ∈ Entries.keys ns' := (hkeys k).1 (List.mem_map_of_mem hmem)
  cases hv' : Entries.find? k ns' with
  | none => exact absurd hk (Entries.find?_eq_none_iff.1 hv')
  | some v' => exact ⟨v', rfl, hvalues _ hmem _ (Entries.mem_of_find? hv') rfl⟩

end IsEqual

/-! ### Equal values are contained alike -/

/-- Items in order and first claims alike end the same among equal items. -/
theorem isWithin_arr_of_like (hws : List.Forall₂ IsEqual ws ws')
    (hvs : List.Forall₂ (fun v v' => ∀ w w', IsEqual w w' →
      isWithin mode v w = isWithin mode v' w') vs vs') :
    isWithin mode (.arr vs) (.arr ws) = isWithin mode (.arr vs') (.arr ws') := by
  cases mode with
  | unordered =>
    rw [isWithin_arr_unordered, isWithin_arr_unordered]
    exact claimAll_eq_of_like hws hvs
  | ordered =>
    rw [isWithin_arr_ordered, isWithin_arr_ordered]
    induction hvs generalizing ws ws' with
    | nil => cases hws <;> simp [isWithinEach]
    | @cons v v' vs vs' hv _ ih =>
      cases hws with
      | nil => simp [isWithinEach]
      | cons hw hws => rw [isWithinEach, isWithinEach, hv _ _ hw, ih hws]

/-- Members whose names are among those of contained ones are contained in equal members, if values
under one name are contained alike. -/
theorem isWithin_obj_of_like (hkeys : ∀ k ∈ Entries.keys ms', k ∈ Entries.keys ms)
    (hns : IsEqual (.obj ns) (.obj ns'))
    (hvalues : ∀ e ∈ ms, ∀ e' ∈ ms', e.1 = e'.1 → ∀ w w', IsEqual w w' →
      isWithin mode e.2 w = isWithin mode e'.2 w')
    (h : isWithin mode (.obj ms) (.obj ns) = true) :
    isWithin mode (.obj ms') (.obj ns') = true := by
  rw [isWithin_obj_iff] at h ⊢
  intro e' he'
  obtain ⟨e, he, hk⟩ := List.mem_map.1 (hkeys e'.1 (List.mem_map_of_mem he'))
  obtain ⟨w, hw, hwithin⟩ := h e he
  obtain ⟨w', hw', hww⟩ := hns.exists_find? hw
  rw [hvalues e he e' he' hk w w' hww] at hwithin
  exact ⟨w', hk ▸ hw', hwithin⟩

/-- **Equal values contain the same values, and are contained in the same**, in either mode. -/
theorem isWithin_congr (ha : IsEqual a a') (hb : IsEqual b b') :
    isWithin mode a b = isWithin mode a' b' := by
  induction a using inductionOn generalizing a' b b' with
  | scalar s =>
    obtain ⟨s', rfl, hs⟩ := ha.exists_scalar
    cases b with
    | scalar t =>
      obtain ⟨t', rfl, ht⟩ := hb.exists_scalar
      rw [isWithin_scalar, isWithin_scalar]
      exact hs.same_congr ht
    -- equal values are of one kind, and nothing is contained in a value of another kind
    | arr ws =>
      obtain ⟨ws', rfl, -⟩ := hb.exists_arr
      simp [isWithin]
    | obj ns =>
      obtain ⟨ns', rfl⟩ := hb.exists_obj
      simp [isWithin]
  | arr vs ih =>
    obtain ⟨vs', rfl, hvs⟩ := ha.exists_arr
    cases b with
    | scalar t =>
      obtain ⟨t', rfl, -⟩ := hb.exists_scalar
      simp [isWithin]
    | arr ws =>
      obtain ⟨ws', rfl, hws⟩ := hb.exists_arr
      have hboth := (List.forall₂_and_left vs vs').2 ⟨fun v hv => @ih v hv, hvs⟩
      refine isWithin_arr_of_like hws (hboth.imp ?_)
      rintro v v' ⟨hv, hvv⟩ w w' hww
      exact hv hvv hww
    | obj ns =>
      obtain ⟨ns', rfl⟩ := hb.exists_obj
      simp [isWithin]
  | obj ms ih =>
    obtain ⟨ms', rfl⟩ := ha.exists_obj
    cases b with
    | scalar t =>
      obtain ⟨t', rfl, -⟩ := hb.exists_scalar
      simp [isWithin]
    | arr ws =>
      obtain ⟨ws', rfl, -⟩ := hb.exists_arr
      simp [isWithin]
    | obj ns =>
      obtain ⟨ns', rfl⟩ := hb.exists_obj
      rw [IsEqual] at ha
      obtain ⟨hkeys, hvalues⟩ := ha
      have hlike : ∀ e ∈ ms, ∀ e' ∈ ms', e.1 = e'.1 → ∀ w w', IsEqual w w' →
          isWithin mode e.2 w = isWithin mode e'.2 w' :=
        fun e he e' he' hk w w' hw => ih e he (hvalues e he e' he' hk) hw
      -- each direction is the other one with the two objects exchanged
      rw [Bool.eq_iff_iff]
      constructor
      · exact isWithin_obj_of_like (fun k => (hkeys k).2) hb hlike
      · refine isWithin_obj_of_like (fun k => (hkeys k).1) hb.symm fun e' he' e he hk w w' hw => ?_
        exact (hlike e he e' he' hk.symm w' w hw.symm).symm

end Json

/-! ### Spellings of one object -/

/-- Two texts that decode to objects of equal value. -/
def Text.IsRespelled (t u : Text) : Prop :=
  ∃ ms ns, Json.decode t = .ok (.obj ms) ∧ Json.decode u = .ok (.obj ns) ∧
    Json.IsEqual (.obj ms) (.obj ns)

variable {mode : ArrayMode} {o o' d d' : Text} {status : Int}

section Objects

variable {os os' ds : List (Text × Json)} (ho : Json.decode o = .ok (.obj os))

include ho

/-- Objects are spellings of one if they contain each other in order. -/
theorem Text.isRespelled_iff_contains (ho' : Json.decode o' = .ok (.obj os')) :
    o.IsRespelled o' ↔ Json.contains .ordered (.obj os') (.obj os) = true ∧
      Json.contains .ordered (.obj os) (.obj os') = true := by
  have hequal := Json.isWithin_antisymm_iff (Json.distinct_of_decode ho)
    (Json.distinct_of_decode ho')
  unfold Json.contains
  rw [hequal]
  constructor
  · rintro ⟨ms, ns, hms, hns, h⟩
    rw [ho] at hms
    rw [ho'] at hns
    cases hms
    cases hns
    exact h
  · exact fun h => ⟨os, os', ho, ho', h⟩

/-- Of two objects the verdict is that of the status and of containment. -/
theorem compare_objects (hd : Json.decode d = .ok (.obj ds)) :
    compare mode o d status =
      .ok (Json.contains mode (.obj os) (.obj ds) && StatusCode.isSuccess status) := by
  rw [← Json.decodeObject?_eq_some_iff] at ho hd
  rw [compare, ho, hd]

end Objects

instance : Decidable (o.IsRespelled o') :=
  match ho : Json.decodeObject? o, ho' : Json.decodeObject? o' with
  | some _, some _ =>
    decidable_of_iff _ (Text.isRespelled_iff_contains (Json.decodeObject?_eq_some_iff.1 ho)
      (Json.decodeObject?_eq_some_iff.1 ho')).symm
  | none, _ => isFalse fun ⟨_, _, h, _⟩ => by
    rw [← Json.decodeObject?_eq_some_iff, ho] at h
    cases h
  | some _, none => isFalse fun ⟨_, _, _, h, _⟩ => by
    rw [← Json.decodeObject?_eq_some_iff, ho'] at h
    cases h

/-- Spellings of the same two objects have the same verdict. -/
theorem Text.IsRespelled.compare_eq (ho : o.IsRespelled o') (hd : d.IsRespelled d') :
    compare mode o d status = compare mode o' d' status := by
  obtain ⟨os, os', hos, hos', hobserved⟩ := ho
  obtain ⟨ds, ds', hds, hds', hdesired⟩ := hd
  have hcontains :
      Json.contains mode (.obj os) (.obj ds) = Json.contains mode (.obj os') (.obj ds') :=
    Json.isWithin_congr hdesired hobserved
  rw [compare_objects hos hds, compare_objects hos' hds', hcontains]

/-- Texts of objects that no comparison tells apart are spellings of one, for each satisfies itself
and so the other one satisfies it. -/
theorem Text.isRespelled_of_compare_eq (ho : o.IsObject) (ho' : o'.IsObject)
    (h : ∀ d status mode, compare mode o d status = compare mode o' d status) :
    o.IsRespelled o' := by
  have hself : ∀ t, compare .ordered t t 200 = .ok true := fun t =>
    compare_eq_true_iff.2 ⟨by decide, by decide, satisfies_self .ordered t⟩
  have hleft := (h o' 200 .ordered).trans (hself o')
  have hright := (h o 200 .ordered).symm.trans (hself o)
  rw [compare_eq_true_iff] at hleft hright
  obtain ⟨os, hos⟩ := ho
  obtain ⟨os', hos'⟩ := ho'
  rw [isRespelled_iff_contains hos hos']
  exact ⟨(satisfies_iff_contains hos' hos).1 hright.2.2,
    (satisfies_iff_contains hos hos').1 hleft.2.2⟩

/-- **The verdict depends on meaning, not on spelling**: of two objects, however they are spelled, it
is the same; and objects that differ in value differ in some verdict. -/
theorem compare_by_meaning :
    (∀ o o' d d' : Text, o.IsRespelled o' → d.IsRespelled d' →
        ∀ status mode, compare mode o d status = compare mode o' d' status) ∧
      ∀ o o' : Text, o.IsObject → o'.IsObject →
        (∀ d status mode, compare mode o d status = compare mode o' d status) →
          o.IsRespelled o' :=
  ⟨fun _ _ _ _ ho hd _ _ => ho.compare_eq hd, fun _ _ => Text.isRespelled_of_compare_eq⟩

/-- The law at members in another order, at numbers with a fraction and with an exponent, and at an
escape and blanks. -/
theorem compare_by_meaning_page :
    Text.IsRespelled "\x7b\"a\":[1,25],\"b\":\x7b\x7d\x7d"
        " \x7b\"b\": \x7b \x7d, \"\\u0061\" : [10e-1, 25.0]\x7d" ∧
      Text.IsRespelled "\x7b\"a\":[25]\x7d" "\x7b\"a\":[2.5e1]\x7d" ∧
      compare .unordered "\x7b\"a\":[1,25],\"b\":\x7b\x7d\x7d" "\x7b\"a\":[25]\x7d" 200 =
        compare .unordered " \x7b\"b\": \x7b \x7d, \"\\u0061\" : [10e-1, 25.0]\x7d"
          "\x7b\"a\":[2.5e1]\x7d" 200 := by
  have hobserved : Text.IsRespelled "\x7b\"a\":[1,25],\"b\":\x7b\x7d\x7d"
      " \x7b\"b\": \x7b \x7d, \"\\u0061\" : [10e-1, 25.0]\x7d" := by decide +kernel
  have hdesired : Text.IsRespelled "\x7b\"a\":[25]\x7d" "\x7b\"a\":[2.5e1]\x7d" := by
    decide +kernel
  exact ⟨hobserved, hdesired, compare_by_meaning.1 _ _ _ _ hobserved hdesired 200 .unordered⟩

end DesiredState
