import DesiredState.Proofs.Comparison.Verdict
import DesiredState.Proofs.Json.Numbers
import DesiredState.Proofs.Resource.PayloadBody

/-!
# Bodies that stay JSON

A container that was read is inserted as a text that is read again, as long as none of its numbers
was too large for a floating point number. Such a number is infinite, and the constant that is
written for it is no standard JSON: the text of the container is refused, so that the body of a
payload that is a JSON object is no longer one where it is inserted.

* `Json.exists_decode_inserted`, `Json.decode_inserted_of_constant`: the containers that are read
  again, and the ones that are refused.
* `Resource.payloadBody_stays_json`: **when a body stays JSON, and what it is compared as.**
-/

namespace DesiredState

variable {t : Text} {v : Json} {r : Resource}

/-! ### Containers that are inserted -/

namespace Json

/-- **A container that was read is read again** where it is inserted if it has no constants: as a
container of its kind. -/
theorem exists_decode_inserted (hv : decode t = .ok v) (hcontainer : ∀ s, v ≠ .scalar s)
    (hfinite : v.constant? = none) :
    ∃ w, decode v.inserted = .ok w ∧ w.isObject = v.isObject := by
  obtain ⟨w, hw, hobject, -⟩ :=
    exists_decode_encode hfinite (isWritable_of_decode hv) (decode_eq_ok_iff.1 hv).2
  rw [inserted_container hcontainer]
  exact ⟨w, hw, hobject⟩

/-- **It is refused** if it has one. -/
theorem decode_inserted_of_constant {c : Text} (hv : decode t = .ok v)
    (hcontainer : ∀ s, v ≠ .scalar s) (hc : v.constant? = some c) :
    decode v.inserted = .error (.constant c) := by
  have hdepth : v.depth ≤ maxOpen := Nat.le_trans (decode_eq_ok_iff.1 hv).2 (by decide)
  rw [inserted_container hcontainer]
  exact decode_of_constant hc (isWritable_of_decode hv) hdepth

theorem exists_decode_inserted_iff (hv : decode t = .ok v) (hcontainer : ∀ s, v ≠ .scalar s) :
    (∃ w, decode v.inserted = .ok w ∧ w.isObject = v.isObject) ↔ v.constant? = none := by
  refine ⟨?_, exists_decode_inserted hv hcontainer⟩
  rintro ⟨w, hw, -⟩
  cases hc : v.constant? with
  | none => rfl
  | some c =>
    rw [decode_inserted_of_constant hv hcontainer hc] at hw
    cases hw

/-- The text that is inserted for an object is an object if it is read at all. -/
theorem isObject_inserted_iff (hv : decode t = .ok v) (hobject : v.isObject = true) :
    v.inserted.IsObject ↔ v.constant? = none := by
  cases v with
  | scalar s => cases hobject
  | arr vs => cases hobject
  | obj members =>
    rw [← exists_decode_inserted_iff hv nofun]
    constructor
    · rintro ⟨ms, hms⟩
      exact ⟨.obj ms, hms, rfl⟩
    · rintro ⟨w, hw, hkind⟩
      cases w with
      | obj ms => exact ⟨ms, hw⟩
      | scalar s => cases hkind
      | arr vs => cases hkind

end Json

/-! ### The body of a payload -/

namespace Resource

/-- The expression for the payload's body renders to the text that is inserted for it. -/
theorem render_payloadBody (hv : Json.decode r.spec.payload.body = .ok v) :
    Template.render r.context Template.payloadBody = .ok ⟨v.inserted, []⟩ := by
  have hlookup := Path.lookup_payloadBody r
  rw [Json.ofBody_of_decode hv] at hlookup
  exact Template.render_expression Template.pieces_payloadBody hlookup
    (Json.isWritable_of_decode hv)

/-- **When a body stays JSON.** A text that is read as a container spells numbers, of which those
count that no later member with the same name hides. The container is read again where it is
inserted, as a container of its kind, just if these are in the range of floating point numbers, and
otherwise it is refused for the first constant in it. So a body that is a JSON object renders to a
JSON object just if its numbers are in the range. It is then compared as JSON, and never refused.
Otherwise it is refused against a JSON object, and plain text against anything else. -/
theorem payloadBody_stays_json (t : Text) (v : Json) (hv : Json.decode t = .ok v)
    (hcontainer : ∀ s, v ≠ .scalar s) :
    ∃ x, Json.Accepts t x ∧ x.value = v ∧
      ((∃ w, Json.decode v.inserted = .ok w ∧ w.isObject = v.isObject) ↔
        ∀ n ∈ x.numbers, n.InRange) ∧
      (∀ c, v.constant? = some c → Json.decode v.inserted = .error (.constant c)) ∧
      ∀ r : Resource, r.spec.payload.body = t → v.isObject = true →
        Template.render r.context Template.payloadBody = .ok ⟨v.inserted, []⟩ ∧
        (v.inserted.IsObject ↔ ∀ n ∈ x.numbers, n.InRange) ∧
        ∀ mode observed status,
          ((∀ n ∈ x.numbers, n.InRange) → compare mode observed v.inserted status =
            if observed.IsObject then .ok (decide (InSync mode observed v.inserted status))
            else .error ⟨.observed, observed⟩) ∧
          ((¬ ∀ n ∈ x.numbers, n.InRange) → compare mode observed v.inserted status =
            if observed.IsObject then .error ⟨.desired, v.inserted⟩
            else .ok (decide (InSync mode observed v.inserted status))) := by
  obtain ⟨x, hx, rfl⟩ := Json.decode_eq_ok_iff_accepts.1 hv
  refine ⟨x, hx, rfl, ?_, fun c => Json.decode_inserted_of_constant hv hcontainer, ?_⟩
  · rw [← x.constant?_value_eq_none_iff]
    exact Json.exists_decode_inserted_iff hv hcontainer
  · rintro r rfl hkind
    have hobject := Json.isObject_inserted_iff hv hkind
    rw [x.constant?_value_eq_none_iff] at hobject
    refine ⟨render_payloadBody hv, hobject, fun mode observed status => ?_⟩
    -- whether the body is still an object decides which of the two texts may be refused
    rw [← hobject, compare_eq]
    constructor
    · intro hdesired
      by_cases hobserved : observed.IsObject
      · rw [if_neg fun h => h.2 hobserved, if_neg fun h => h.2 hdesired, if_pos hobserved]
      · rw [if_pos ⟨hdesired, hobserved⟩, if_neg hobserved]
    · intro hdesired
      by_cases hobserved : observed.IsObject
      · rw [if_neg fun h => hdesired h.1, if_pos ⟨hobserved, hdesired⟩, if_pos hobserved]
      · rw [if_neg fun h => hdesired h.1, if_neg fun h => hobserved h.1, if_neg hobserved]

/-- A resource with a body that its update sends on. -/
def forwarding (body : Text) : Resource where
  name := "forwarding"
  spec := ⟨⟨"u", body⟩, [(.put, ⟨.put, [], Template.payloadBody, []⟩)], [], false⟩
  status := ⟨⟨[], [], [], []⟩, ⟨0, [], []⟩, 0, []⟩

/-- What is read from a text, by what can be decided of it. -/
theorem exists_object {c : Option Text} {s : Text}
    (h : (Json.decodeWith .refused t).toOption.map (fun v =>
      (v.isObject, decide (v.depth ≤ Json.maxDepth), v.constant?, v.inserted)) =
        some (true, true, c, s)) :
    ∃ v, Json.decode t = .ok v ∧ v.isObject = true ∧ v.constant? = c ∧ v.inserted = s := by
  obtain ⟨v, hv, htold⟩ := Option.map_eq_some_iff.1 h
  simp only [Prod.mk.injEq, decide_eq_true_eq] at htold
  obtain ⟨hobject, hdepth, hconstant, hinserted⟩ := htold
  cases hread : Json.decodeWith .refused t with
  | error e =>
    rw [hread] at hv
    cases hv
  | ok w =>
    rw [hread] at hv
    cases hv
    exact ⟨v, Json.decode_eq_ok_iff.2 ⟨hread, hdepth⟩, hobject, hconstant, hinserted⟩

theorem isObject_empty : Text.IsObject "\x7b\x7d" :=
  ⟨[], Json.decode_eq_ok_iff.2 ⟨rfl, by decide⟩⟩

/-- A number that is still in the range is written in another way. -/
theorem payloadBody_stays_json_inRange :
    ∃ v, Json.decode "\x7b\"a\": 1e300\x7d" = .ok v ∧ v.isObject = true ∧
      Template.render (forwarding "\x7b\"a\": 1e300\x7d").context Template.payloadBody =
        .ok ⟨"\x7b\"a\": 1e+300\x7d", []⟩ ∧
      Text.IsObject "\x7b\"a\": 1e+300\x7d" ∧
      ∀ mode, ∃ verdict, compare mode "\x7b\x7d" "\x7b\"a\": 1e+300\x7d" 200 = .ok verdict := by
  obtain ⟨v, hread, hkind, hfinite, hinserted⟩ :
      ∃ v, Json.decode "\x7b\"a\": 1e300\x7d" = .ok v ∧ v.isObject = true ∧
        v.constant? = none ∧ v.inserted = "\x7b\"a\": 1e+300\x7d" :=
    exists_object (by decide +kernel)
  have hcontainer : ∀ s, v ≠ .scalar s := by
    rintro s rfl
    cases hkind
  obtain ⟨x, -, rfl, -, -, hbody⟩ := payloadBody_stays_json _ _ hread hcontainer
  obtain ⟨hrender, hobject, hcompare⟩ := hbody (forwarding "\x7b\"a\": 1e300\x7d") rfl hkind
  have hrange : ∀ n ∈ x.numbers, n.InRange := x.constant?_value_eq_none_iff.1 hfinite
  rw [hinserted] at hrender hobject hcompare
  refine ⟨x.value, hread, hkind, hrender, hobject.2 hrange, fun mode => ?_⟩
  rw [(hcompare mode "\x7b\x7d" 200).1 hrange, if_pos isObject_empty]
  exact ⟨_, rfl⟩

/-- A number beyond the range is written as a constant, so that the body is refused. -/
theorem largeNumber_leaves_json :
    (∃ v, Json.decode "\x7b\"a\": 1e400\x7d" = .ok v ∧ v.isObject = true) ∧
      Template.render (forwarding "\x7b\"a\": 1e400\x7d").context Template.payloadBody =
        .ok ⟨"\x7b\"a\": Infinity\x7d", []⟩ ∧
      Json.decode "\x7b\"a\": Infinity\x7d" = .error (.constant "Infinity") ∧
      ¬ Text.IsObject "\x7b\"a\": Infinity\x7d" ∧
      ∀ mode, compare mode "\x7b\x7d" "\x7b\"a\": Infinity\x7d" 200 =
        .error ⟨.desired, "\x7b\"a\": Infinity\x7d"⟩ := by
  obtain ⟨v, hread, hkind, hconstant, hinserted⟩ :
      ∃ v, Json.decode "\x7b\"a\": 1e400\x7d" = .ok v ∧ v.isObject = true ∧
        v.constant? = some ("Infinity" : Text) ∧ v.inserted = "\x7b\"a\": Infinity\x7d" :=
    exists_object (by decide +kernel)
  have hcontainer : ∀ s, v ≠ .scalar s := by
    rintro s rfl
    cases hkind
  have hrender := render_payloadBody (r := forwarding "\x7b\"a\": 1e400\x7d") hread
  have hrefused := Json.decode_inserted_of_constant hread hcontainer hconstant
  rw [hinserted] at hrender hrefused
  have hobject : ¬ Text.IsObject "\x7b\"a\": Infinity\x7d" := by
    rintro ⟨members, h⟩
    rw [hrefused] at h
    cases h
  refine ⟨⟨v, hread, hkind⟩, hrender, hrefused, hobject, fun mode => ?_⟩
  rw [compare_eq, if_neg fun h => hobject h.1, if_pos ⟨isObject_empty, hobject⟩]

end Resource

end DesiredState
