import DesiredState.Proofs.Comparison.Reflexive
import Mathlib.Logic.Relation

/-!
# Containment with ordered arrays

In ordered mode containment is an order on the values that are read from texts: it holds of a value
and itself, it is transitive, and two values that contain each other are equal, whatever the order
of their members and the spelling of their numbers. So a value that contains another one still does
when members are added to it.

* `Json.IsEqual`: equality of values.
* `Json.isWithin_trans`: **what is contained in a contained value is contained.**
* `Json.isWithin_antisymm_iff`: **values that contain each other are the equal ones.**
* `Json.AddsMember`: one member more, at any depth.
* `Json.contains_ordered`: the laws together, of values that are read from texts.
-/

namespace DesiredState

/-- The same scalar, or two numbers with the same exact value. -/
def Scalar.IsEqual (s t : Scalar) : Prop :=
  s = t ∨ ∃ x, s.number? = some x ∧ t.number? = some x

theorem Scalar.same_iff {s t : Scalar} : s.same t = true ↔ s.IsEqual t := by
  constructor
  · intro h
    unfold Scalar.same at h
    split at h
    · exact .inl rfl
    · exact .inl (congrArg Scalar.bool (beq_iff_eq.1 h))
    · exact .inl (congrArg Scalar.str (beq_iff_eq.1 h))
    · split at h
      · next x y hx hy => exact .inr ⟨x, hx, by rw [hy, of_decide_eq_true h]⟩
      · cases h
  · rintro (rfl | ⟨x, hs, ht⟩)
    · exact s.same_self
    · unfold Scalar.same
      split <;> simp_all [Scalar.number?]

theorem Scalar.IsEqual.symm {s t : Scalar} (h : s.IsEqual t) : t.IsEqual s := by
  obtain rfl | ⟨x, hs, ht⟩ := h
  · exact .inl rfl
  · exact .inr ⟨x, ht, hs⟩

theorem Scalar.IsEqual.trans {s t u : Scalar} (h : s.IsEqual t) (h' : t.IsEqual u) :
    s.IsEqual u := by
  obtain rfl | ⟨x, hs, ht⟩ := h
  · exact h'
  obtain rfl | ⟨y, ht', hu⟩ := h'
  · exact .inr ⟨x, hs, ht⟩
  · rw [ht] at ht'
    cases ht'
    exact .inr ⟨x, hs, hu⟩

/-- Lists are related pair by pair if they are of one length and related at each place. -/
theorem forall₂_iff_places {α β : Type} {R : α → β → Prop} {xs : List α} {ys : List β} :
    List.Forall₂ R xs ys ↔
      xs.length = ys.length ∧
        ∀ (i : Fin xs.length) (j : Fin ys.length), i.val = j.val → R (xs.get i) (ys.get j) := by
  rw [List.forall₂_iff_get]
  refine and_congr_right fun hlength =>
    ⟨fun h i j hij => ?_, fun h i hi hj => h ⟨i, hi⟩ ⟨i, hj⟩ rfl⟩
  obtain ⟨i, hi⟩ := i
  obtain ⟨j, hj⟩ := j
  cases hij
  exact h i hi hj

namespace Json

/-- Induction on a value, through its items and members. -/
@[elab_as_elim]
theorem inductionOn {motive : Json → Prop} (v : Json) (scalar : ∀ s, motive (.scalar s))
    (arr : ∀ vs, (∀ v ∈ vs, motive v) → motive (.arr vs))
    (obj : ∀ ms : List (Text × Json), (∀ m ∈ ms, motive m.2) → motive (.obj ms)) : motive v := by
  match v with
  | .scalar s => exact scalar s
  | .arr vs => exact arr vs fun w _ => inductionOn w scalar arr obj
  | .obj ms => exact obj ms fun m _ => inductionOn m.2 scalar arr obj
termination_by v
decreasing_by
  · have hlt := List.sizeOf_lt_of_mem ‹w ∈ vs›
    rw [Json.arr.sizeOf_spec]
    omega
  · exact sizeOf_lt_obj ‹m ∈ ms›

/-- Equal values: scalars as such, arrays item by item, and objects if they have the same names and
equal values under each, in whatever order. -/
def IsEqual : Json → Json → Prop
  | .obj ms, .obj ns =>
    (∀ k, k ∈ Entries.keys ms ↔ k ∈ Entries.keys ns) ∧
      ∀ e ∈ ms, ∀ e' ∈ ns, e.1 = e'.1 → IsEqual e.2 e'.2
  | .arr vs, .arr ws =>
    vs.length = ws.length ∧
      ∀ (i : Fin vs.length) (j : Fin ws.length), i.val = j.val → IsEqual vs[i] ws[j]
  | .scalar s, .scalar t => s.IsEqual t
  | _, _ => False
termination_by v => v
decreasing_by
  · exact sizeOf_lt_obj ‹e ∈ ms›
  · exact sizeOf_lt_arr i

variable {mode : ArrayMode} {a b c : Json} {vs ws xs : List Json} {ms ns : List (Text × Json)}

/-! ### Transitivity -/

theorem isWithin_arr_ordered_iff :
    isWithin .ordered (.arr vs) (.arr ws) = true ↔
      vs.length = ws.length ∧
        ∀ (i : Fin vs.length) (j : Fin ws.length), i.val = j.val →
          isWithin .ordered (vs.get i) (ws.get j) = true := by
  rw [isWithin_arr_ordered, isWithinEach_iff, forall₂_iff_places]

theorem exists_scalar_of_isWithin {s : Scalar} (h : isWithin mode (.scalar s) b = true) :
    ∃ t, b = .scalar t := by
  cases b with
  | scalar t => exact ⟨t, rfl⟩
  | arr ws => simp [isWithin] at h
  | obj ns => simp [isWithin] at h

theorem exists_arr_of_isWithin (h : isWithin mode (.arr vs) b = true) : ∃ ws, b = .arr ws := by
  cases b with
  | scalar t => simp [isWithin] at h
  | arr ws => exact ⟨ws, rfl⟩
  | obj ns => simp [isWithin] at h

theorem exists_obj_of_isWithin (h : isWithin mode (.obj ms) b = true) : ∃ ns, b = .obj ns := by
  cases b with
  | scalar t => simp [isWithin] at h
  | arr ws => simp [isWithin] at h
  | obj ns => exact ⟨ns, rfl⟩

/-- **What is contained in a contained value is contained.** -/
theorem isWithin_trans (hab : isWithin .ordered a b = true) (hbc : isWithin .ordered b c = true) :
    isWithin .ordered a c = true := by
  induction a using inductionOn generalizing b c with
  | scalar s =>
    obtain ⟨t, rfl⟩ := exists_scalar_of_isWithin hab
    obtain ⟨u, rfl⟩ := exists_scalar_of_isWithin hbc
    rw [isWithin_scalar, Scalar.same_iff] at hab hbc ⊢
    exact hab.trans hbc
  | arr vs ih =>
    obtain ⟨ws, rfl⟩ := exists_arr_of_isWithin hab
    obtain ⟨xs, rfl⟩ := exists_arr_of_isWithin hbc
    rw [isWithin_arr_ordered_iff] at hab hbc ⊢
    obtain ⟨hlength, hitems⟩ := hab
    obtain ⟨hlength', hitems'⟩ := hbc
    refine ⟨hlength.trans hlength', fun i k hik => ?_⟩
    let j : Fin ws.length := i.cast hlength
    exact ih _ (List.getElem_mem i.isLt) (hitems i j rfl) (hitems' j k hik)
  | obj ms ih =>
    obtain ⟨ns, rfl⟩ := exists_obj_of_isWithin hab
    obtain ⟨os, rfl⟩ := exists_obj_of_isWithin hbc
    rw [isWithin_obj_iff] at hab hbc ⊢
    intro e he
    obtain ⟨w, hw, hew⟩ := hab e he
    obtain ⟨x, hx, hwx⟩ := hbc _ (Entries.mem_of_find? hw)
    exact ⟨x, hx, ih e he hew hwx⟩

/-! ### Antisymmetry -/

/-- Members that contain each other have the same names. -/
theorem mem_keys_of_isWithin (h : isWithin .ordered (.obj ms) (.obj ns) = true) {k : Text}
    (hk : k ∈ Entries.keys ms) : k ∈ Entries.keys ns := by
  obtain ⟨e, he, rfl⟩ := List.mem_map.1 hk
  obtain ⟨w, hw, -⟩ := isWithin_obj_iff.1 h e he
  exact List.mem_map.2 ⟨_, Entries.mem_of_find? hw, rfl⟩

/-- Arrays contain each other exactly if they are of one length and their items do. -/
theorem isWithin_arr_both_iff :
    isWithin .ordered (.arr vs) (.arr ws) = true ∧ isWithin .ordered (.arr ws) (.arr vs) = true ↔
      vs.length = ws.length ∧ ∀ (i : Fin vs.length) (j : Fin ws.length), i.val = j.val →
        isWithin .ordered (vs.get i) (ws.get j) = true ∧
          isWithin .ordered (ws.get j) (vs.get i) = true := by
  rw [isWithin_arr_ordered_iff, isWithin_arr_ordered_iff]
  constructor
  · rintro ⟨⟨hlength, hvw⟩, -, hwv⟩
    exact ⟨hlength, fun i j hij => ⟨hvw i j hij, hwv j i hij.symm⟩⟩
  · rintro ⟨hlength, h⟩
    exact ⟨⟨hlength, fun i j hij => (h i j hij).1⟩, hlength.symm,
      fun j i hji => (h i j hji.symm).2⟩

/-- Objects that repeat no name contain each other exactly if they have the same names and what
they have under a name does. -/
theorem isWithin_obj_both_iff (hms : (Entries.keys ms).Nodup) (hns : (Entries.keys ns).Nodup) :
    isWithin .ordered (.obj ms) (.obj ns) = true ∧ isWithin .ordered (.obj ns) (.obj ms) = true ↔
      (∀ k, k ∈ Entries.keys ms ↔ k ∈ Entries.keys ns) ∧
        ∀ e ∈ ms, ∀ e' ∈ ns, e.1 = e'.1 →
          isWithin .ordered e.2 e'.2 = true ∧ isWithin .ordered e'.2 e.2 = true := by
  constructor
  · rintro ⟨hmn, hnm⟩
    refine ⟨fun k => ⟨mem_keys_of_isWithin hmn, mem_keys_of_isWithin hnm⟩, ?_⟩
    rintro ⟨k, v⟩ he ⟨k', w⟩ he' hk
    dsimp only at hk ⊢
    subst hk
    -- each of the two is what the other object has under the name
    obtain ⟨w', hw', hvw⟩ := isWithin_obj_iff.1 hmn _ he
    obtain ⟨v', hv', hwv⟩ := isWithin_obj_iff.1 hnm _ he'
    rw [Entries.find?_of_mem hns he'] at hw'
    rw [Entries.find?_of_mem hms he] at hv'
    cases hw'
    cases hv'
    exact ⟨hvw, hwv⟩
  · rintro ⟨hkeys, hboth⟩
    rw [isWithin_obj_iff, isWithin_obj_iff]
    constructor
    · intro e he
      obtain ⟨e', he', hk⟩ := List.mem_map.1 ((hkeys e.1).1 (List.mem_map_of_mem he))
      exact ⟨e'.2, Entries.find?_of_mem hns (hk ▸ he'), (hboth e he e' he' hk.symm).1⟩
    · intro e' he'
      obtain ⟨e, he, hk⟩ := List.mem_map.1 ((hkeys e'.1).2 (List.mem_map_of_mem he'))
      exact ⟨e.2, Entries.find?_of_mem hms (hk ▸ he), (hboth e he e' he' hk).2⟩

/-- **Values that contain each other are the equal ones**, if no object repeats a name. -/
theorem isWithin_antisymm_iff (ha : a.Distinct) (hb : b.Distinct) :
    isWithin .ordered a b = true ∧ isWithin .ordered b a = true ↔ IsEqual a b := by
  induction a using inductionOn generalizing b with
  | scalar s =>
    cases b with
    | scalar t =>
      rw [isWithin_scalar, isWithin_scalar, Scalar.same_iff, Scalar.same_iff, IsEqual]
      exact ⟨And.left, fun h => ⟨h, h.symm⟩⟩
    | arr ws => simp [isWithin, IsEqual]
    | obj ns => simp [isWithin, IsEqual]
  | arr vs ih =>
    cases b with
    | scalar t => simp [isWithin, IsEqual]
    | obj ns => simp [isWithin, IsEqual]
    | arr ws =>
      rw [Distinct, distinctItems_iff] at ha hb
      rw [isWithin_arr_both_iff, IsEqual]
      refine and_congr_right fun _ => forall₃_congr fun i j _ => ?_
      have hv : vs.get i ∈ vs := List.getElem_mem i.isLt
      have hw : ws.get j ∈ ws := List.getElem_mem j.isLt
      exact ih _ hv (ha _ hv) (hb _ hw)
  | obj ms ih =>
    cases b with
    | scalar t => simp [isWithin, IsEqual]
    | arr ws => simp [isWithin, IsEqual]
    | obj ns =>
      rw [Distinct, distinctMembers_iff] at ha hb
      obtain ⟨hms, hma⟩ := ha
      obtain ⟨hns, hnb⟩ := hb
      rw [isWithin_obj_both_iff hms hns, IsEqual]
      refine and_congr_right fun _ => forall₅_congr fun e he e' he' _ => ?_
      exact ih e he (hma e he) (hnb e' he')

/-! ### More members -/

/-- One member more: the second value is the first one with a new member somewhere in one of its
objects, at any depth. -/
inductive AddsMember : Json → Json → Prop
  | here {ms ms' : List (Text × Json)} {k : Text} {v : Json} (hv : v.Distinct)
      (hk : k ∉ Entries.keys (ms ++ ms')) :
      AddsMember (.obj (ms ++ ms')) (.obj (ms ++ (k, v) :: ms'))
  | member {ms ms' : List (Text × Json)} {k : Text} {v w : Json} (h : AddsMember v w) :
      AddsMember (.obj (ms ++ (k, v) :: ms')) (.obj (ms ++ (k, w) :: ms'))
  | item {vs vs' : List Json} {v w : Json} (h : AddsMember v w) :
      AddsMember (.arr (vs ++ v :: vs')) (.arr (vs ++ w :: vs'))

/-- A member of an object is found again in one that has members of the same names and more. -/
theorem isWithin_obj_of_mem (hns : (Entries.keys ns).Nodup)
    (h : ∀ e ∈ ms, ∃ w, (e.1, w) ∈ ns ∧ isWithin .ordered e.2 w = true) :
    isWithin .ordered (.obj ms) (.obj ns) = true := by
  rw [isWithin_obj_iff]
  intro e he
  obtain ⟨w, hmem, hw⟩ := h e he
  exact ⟨w, Entries.find?_of_mem hns hmem, hw⟩

/-- A value is contained in the one with a member more, which repeats no name either. -/
theorem AddsMember.isWithin (h : AddsMember a b) (ha : a.Distinct) :
    b.Distinct ∧ Json.isWithin .ordered a b = true := by
  induction h with
  | @here ms ms' k v hv hk =>
    rw [Distinct, distinctMembers_iff] at ha ⊢
    obtain ⟨hnodup, hvalues⟩ := ha
    have hkeys : (Entries.keys (ms ++ (k, v) :: ms')).Nodup := by
      rw [Entries.keys, List.map_append, List.map_cons, List.nodup_middle, ← List.map_append]
      exact List.nodup_cons.2 ⟨hk, hnodup⟩
    obtain ⟨hms, hms'⟩ := List.forall_mem_append.1 hvalues
    refine ⟨⟨hkeys, List.forall_mem_append.2 ⟨hms, List.forall_mem_cons.2 ⟨hv, hms'⟩⟩⟩, ?_⟩
    refine isWithin_obj_of_mem hkeys (List.forall_mem_append.2 ⟨fun e he => ?_, fun e he => ?_⟩)
    · exact ⟨e.2, List.mem_append_left _ he, isWithin_self (hms e he)⟩
    · exact ⟨e.2, List.mem_append_right _ (List.mem_cons_of_mem _ he), isWithin_self (hms' e he)⟩
  | @member ms ms' k v w h ih =>
    rw [Distinct, distinctMembers_iff] at ha ⊢
    obtain ⟨hnodup, hvalues⟩ := ha
    rw [List.forall_mem_append, List.forall_mem_cons] at hvalues
    obtain ⟨hms, hv, hms'⟩ := hvalues
    obtain ⟨hw, hvw⟩ := ih hv
    have hkeys : (Entries.keys (ms ++ (k, w) :: ms')).Nodup := by
      rw [Entries.keys, List.map_append] at hnodup ⊢
      exact hnodup
    refine ⟨⟨hkeys, List.forall_mem_append.2 ⟨hms, List.forall_mem_cons.2 ⟨hw, hms'⟩⟩⟩, ?_⟩
    refine isWithin_obj_of_mem hkeys (List.forall_mem_append.2 ⟨fun e he => ?_,
      List.forall_mem_cons.2 ⟨⟨w, by simp, hvw⟩, fun e he => ?_⟩⟩)
    · exact ⟨e.2, List.mem_append_left _ he, isWithin_self (hms e he)⟩
    · exact ⟨e.2, List.mem_append_right _ (List.mem_cons_of_mem _ he), isWithin_self (hms' e he)⟩
  | @item vs vs' v w h ih =>
    rw [Distinct, distinctItems_iff, List.forall_mem_append, List.forall_mem_cons] at ha
    obtain ⟨hvs, hv, hvs'⟩ := ha
    obtain ⟨hw, hvw⟩ := ih hv
    have hself {us : List Json} (h : ∀ u ∈ us, u.Distinct) :
        List.Forall₂ (fun u u' => Json.isWithin .ordered u u' = true) us us :=
      List.forall₂_same.2 fun u hu => isWithin_self (h u hu)
    refine ⟨?_, ?_⟩
    · rw [Distinct, distinctItems_iff]
      exact List.forall_mem_append.2 ⟨hvs, List.forall_mem_cons.2 ⟨hw, hvs'⟩⟩
    · rw [isWithin_arr_ordered, isWithinEach_iff]
      exact List.rel_append (hself hvs) (.cons hvw (hself hvs'))

/-- A value is contained in what becomes of it when members are added one after the other. -/
theorem isWithin_of_addsMembers (h : Relation.ReflTransGen AddsMember a b) (ha : a.Distinct) :
    b.Distinct ∧ isWithin .ordered a b = true := by
  induction h with
  | refl => exact ⟨ha, isWithin_self ha⟩
  | tail _ hstep ih =>
    obtain ⟨hb, hab⟩ := ih
    obtain ⟨hc, hbc⟩ := hstep.isWithin hb
    exact ⟨hc, isWithin_trans hab hbc⟩

/-! ### The laws -/

/-- **Containment with ordered arrays is an order on values that are read from texts**: reflexive,
transitive, and antisymmetric up to the order of members and the spelling of numbers. So members
that are added to an observed value, at any depth, never make it lose what it contains. -/
theorem contains_ordered {t u : Text} {a b : Json} (ha : decode t = .ok a) (hb : decode u = .ok b)
    (c : Json) :
    contains .ordered a a = true ∧
      (contains .ordered a b = true → contains .ordered b c = true →
        contains .ordered a c = true) ∧
      (contains .ordered a b = true ∧ contains .ordered b a = true ↔ IsEqual a b) ∧
      ∀ a', Relation.ReflTransGen AddsMember a a' → contains .ordered a b = true →
        contains .ordered a' b = true := by
  have hda := distinct_of_decode ha
  have hdb := distinct_of_decode hb
  refine ⟨isWithin_self hda, fun hab hbc => isWithin_trans hbc hab, ?_, fun a' hadds hab => ?_⟩
  · rw [← isWithin_antisymm_iff hda hdb, and_comm]
    rfl
  · exact isWithin_trans hab (isWithin_of_addsMembers hadds hda).2

set_option maxRecDepth 4000 in
/-- The laws at two spellings of one value, and at the first of them with a member more inside. -/
theorem contains_ordered_spellings :
    decode "\x7b\"a\": 1, \"b\": [\x7b\x7d]\x7d" =
        .ok (.obj [("a", .int 1), ("b", .arr [.obj []])]) ∧
      decode "\x7b\"b\": [\x7b\x7d], \"a\": 1\x7d" =
        .ok (.obj [("b", .arr [.obj []]), ("a", .int 1)]) ∧
      IsEqual (.obj [("a", .int 1), ("b", .arr [.obj []])])
        (.obj [("b", .arr [.obj []]), ("a", .int 1)]) ∧
      contains .ordered (.obj [("a", .int 1), ("b", .arr [.obj [("c", .null)]])])
        (.obj [("b", .arr [.obj []]), ("a", .int 1)]) = true := by
  have ha : decode "\x7b\"a\": 1, \"b\": [\x7b\x7d]\x7d" =
      .ok (.obj [("a", .int 1), ("b", .arr [.obj []])]) := by cbv
  have hb : decode "\x7b\"b\": [\x7b\x7d], \"a\": 1\x7d" =
      .ok (.obj [("b", .arr [.obj []]), ("a", .int 1)]) := by cbv
  obtain ⟨-, -, hequal, hadds⟩ := contains_ordered ha hb .null
  refine ⟨ha, hb, hequal.1 ⟨by decide +kernel, by decide +kernel⟩,
    hadds _ (.single ?_) (by decide +kernel)⟩
  have hempty : AddsMember (.obj []) (.obj [("c", .null)]) :=
    @AddsMember.here [] [] "c" .null trivial List.not_mem_nil
  have hitem : AddsMember (.arr [.obj []]) (.arr [.obj [("c", .null)]]) :=
    @AddsMember.item [] [] _ _ hempty
  exact @AddsMember.member [("a", .int 1)] [] "b" _ _ hitem

end Json

end DesiredState
