import DesiredState.Lifecycle.Observation
import DesiredState.Proofs.Comparison.Verdict
import DesiredState.Proofs.Exchange.Traffic

/-!
# The decision of an observation

An observation runs through a gate, a request, a second resolution and a comparison, each with
errors of its own. This is what all of them together decide, as a table on the recorded status, the
answer to the GET request and the two resolved mappings.

* `Resource.NothingRecorded`: what the gate rejects.
* `Resource.decision`: the table.
* `Observer.observe_eq_decision`: **an observation is this table, and sends the GET request or
  nothing.**
-/

namespace DesiredState

namespace Resource

variable {r : Resource}

/-- The recorded status shows no remote object: there is no body, or the POST that was to create
the object was answered with an error. -/
def NothingRecorded (r : Resource) : Prop :=
  r.status.response.body = [] ∨
    (r.status.request.method = Method.post.name ∧
      400 ≤ r.status.response.status ∧ r.status.response.status ≤ 599)

instance (r : Resource) : Decidable r.NothingRecorded := inferInstanceAs (Decidable (_ ∨ _ ∧ _ ∧ _))

theorem isObservable_iff : r.isObservable = true ↔ ¬ r.NothingRecorded := by
  unfold isObservable NothingRecorded
  rw [← StatusCode.isError_iff]
  by_cases hm : r.status.request.method = Method.post.name <;> simp [hm]

theorem not_isObservable_iff : (!r.isObservable) = true ↔ r.NothingRecorded := by
  rw [Bool.not_eq_true', ← Bool.not_eq_true, isObservable_iff, Decidable.not_not]

/-- What the answer to the GET request is worth: an error of the desired state, an error that names
the one text which is no JSON object, or whether the two texts are in sync. -/
def judged (r : Resource) (mode : ArrayMode) (exchange : Exchange) (transportError : Option Text) :
    Except Failure Observation :=
  match r.resolve .put with
  | .error e => .error e
  | .ok put =>
    let observed := exchange.response.body
    if put.body.IsObject ∧ ¬ observed.IsObject then .error (.invalidJson ⟨.observed, observed⟩)
    else if observed.IsObject ∧ ¬ put.body.IsObject then
      .error (.invalidJson ⟨.desired, put.body⟩)
    else
      .ok ⟨decide (InSync mode observed put.body exchange.response.status), exchange,
        transportError⟩

/-- **The decision of an observation**, given what the GET request comes to. A transport that fails
leaves an empty response to judge; a response of 404 means that there is no object. -/
def decision (r : Resource) (mode : ArrayMode) (answer : Request → Except Failure Response) :
    Except Failure Observation :=
  if r.NothingRecorded then .error .objectNotFound
  else
    match r.resolve .get with
    | .error e => .error e
    | .ok get =>
      match answer (get.toRequest .get) with
      | .error (.transport message) => r.judged mode ⟨get.toRequest .get, .empty⟩ (some message)
      | .error e => .error e
      | .ok response =>
        if response.status = StatusCode.notFound then .error .objectNotFound
        else r.judged mode ⟨get.toRequest .get, response⟩ none

variable {σ : Type}

/-- The traffic of the request that a resource maps to a method: none if it does not resolve. -/
def trafficOf (r : Resource) (c : Client) (method : Method) (w : World σ) : Traffic :=
  match r.resolve method with
  | .error _ => []
  | .ok q => c.trafficOf (q.toRequest method) r.spec.skipTlsVerify w

end Resource

namespace Observer

variable {σ : Type} (o : Observer) (r : Resource) (w : World σ)

/-- The exchange of the GET request. A transport that fails is an error beside an empty
response. -/
theorem fetch_result :
    (o.fetch r w).1 =
      match r.resolve .get with
      | .error e => .error e
      | .ok get =>
        match w.answer (get.toRequest .get) with
        | .error (.transport message) => .ok (⟨get.toRequest .get, .empty⟩, some message)
        | .error e => .error e
        | .ok response => .ok (⟨get.toRequest .get, response⟩, none) := by
  unfold fetch Resource.resolveLogged
  cases r.resolve .get with
  | error e => rfl
  | ok get =>
    have h := o.client.send_result (get.toRequest .get) r.spec.skipTlsVerify
      (w.debug Resource.resolutionLogger (r.resolutionMessage .get))
    simp only
    generalize o.client.send (get.toRequest .get) r.spec.skipTlsVerify
      (w.debug Resource.resolutionLogger (r.resolutionMessage .get)) = sent at h ⊢
    obtain ⟨result, w'⟩ := sent
    have hanswer : result = (w.answer (get.toRequest .get)).map fun response =>
        ⟨get.toRequest .get, response⟩ := h
    rw [hanswer]
    rcases w.answer (get.toRequest .get) with e | response
    · cases e <;> rfl
    · rfl

theorem carries_fetch : w.Carries (r.trafficOf o.client .get w) (o.fetch r w).2 := by
  unfold fetch Resource.resolveLogged Resource.trafficOf
  cases r.resolve .get with
  | error e => exact .refl w
  | ok get =>
    have h := o.client.carries_send (get.toRequest .get) r.spec.skipTlsVerify
      (w.debug Resource.resolutionLogger (r.resolutionMessage .get))
    simp only
    generalize o.client.send (get.toRequest .get) r.spec.skipTlsVerify
      (w.debug Resource.resolutionLogger (r.resolutionMessage .get)) = sent at h ⊢
    obtain ⟨result, w'⟩ := sent
    have hw : w.Carries (o.client.trafficOf (get.toRequest .get) r.spec.skipTlsVerify w) w' :=
      h.of_debug
    rcases result with e | exchange
    · cases e <;> exact hw
    · exact hw

theorem carries_desiredState {t : Traffic} {w' : World σ} (h : w.Carries t w') :
    w.Carries t (desiredState r w').2 := by
  unfold desiredState Resource.resolveLogged
  cases r.resolve .put with
  | error e => exact h
  | ok put => exact h.debug _ _

/-- What follows the exchange of the GET request is the judgement of it. -/
theorem judged_eq (exchange : Exchange) (transportError : Option Text) :
    (match desiredState r w with
      | (.error e, w) => (.error e, w)
      | (.ok desired, w) =>
        match compare o.mode exchange.response.body desired exchange.response.status with
        | .error mismatch => (.error (.invalidJson mismatch), w)
        | .ok synced => (.ok ⟨synced, exchange, transportError⟩, w) :
      Except Failure Observation × World σ).1 = r.judged o.mode exchange transportError := by
  unfold desiredState Resource.resolveLogged Resource.judged
  cases r.resolve .put with
  | error e => rfl
  | ok put =>
    dsimp only
    rw [compare_eq]
    by_cases hobserved : put.body.IsObject ∧ ¬ exchange.response.body.IsObject
    · rw [if_pos hobserved, if_pos hobserved]
    rw [if_neg hobserved, if_neg hobserved]
    by_cases hdesired : exchange.response.body.IsObject ∧ ¬ put.body.IsObject
    · rw [if_pos hdesired, if_pos hdesired]
    · rw [if_neg hdesired, if_neg hdesired]

/-- **What the four stages of an observation decide is the table**, for every answer to the GET
request. -/
theorem observe_result : (o.observe r w).1 = r.decision o.mode w.answer := by
  unfold observe Resource.decision
  by_cases hr : r.NothingRecorded
  · rw [if_pos hr, if_pos (Resource.not_isObservable_iff.2 hr)]
  rw [if_neg hr, if_neg (mt Resource.not_isObservable_iff.1 hr)]
  -- the judgement does not look at the world that the request leaves behind
  have hfetch := o.fetch_result r w
  generalize o.fetch r w = fetched at hfetch ⊢
  obtain ⟨result, w'⟩ := fetched
  simp only at hfetch
  subst hfetch
  cases r.resolve .get with
  | error e => rfl
  | ok get =>
    dsimp only
    rcases w.answer (get.toRequest .get) with e | response
    · cases e with
      | transport message => exact o.judged_eq r w' ⟨get.toRequest .get, .empty⟩ (some message)
      | _ => rfl
    · dsimp only
      by_cases h404 : response.status = StatusCode.notFound
      · rw [if_pos h404, if_pos h404]
      · rw [if_neg h404, if_neg h404]
        exact o.judged_eq r w' ⟨get.toRequest .get, response⟩ none

/-- The traffic of an observation: the GET request, once the gate lets the resource through. -/
def traffic : Traffic :=
  if r.NothingRecorded then [] else r.trafficOf o.client .get w

theorem carries_observe : w.Carries (o.traffic r w) (o.observe r w).2 := by
  unfold observe traffic
  by_cases hr : r.NothingRecorded
  · rw [if_pos hr, if_pos (Resource.not_isObservable_iff.2 hr)]
    exact .refl w
  rw [if_neg hr, if_neg (mt Resource.not_isObservable_iff.1 hr)]
  have hfetch := o.carries_fetch r w
  generalize o.fetch r w = fetched at hfetch ⊢
  obtain ⟨result, w'⟩ := fetched
  rcases result with e | ⟨exchange, transportError⟩
  · exact hfetch
  simp only
  split
  · exact hfetch
  -- after the response only the log grows
  have hdesired := carries_desiredState r w hfetch
  generalize desiredState r w' = desired at hdesired ⊢
  obtain ⟨result, w''⟩ := desired
  rcases result with e | desired
  · exact hdesired
  · simp only
    split <;> exact hdesired

/-- **The decision of an observation.** For every resource, mode, event and reply the result is the
table, and what was sent is the GET request: nothing when the gate rejects the resource, when the
mapping does not resolve or when the event is set. -/
theorem observe_eq_decision (o : Observer) (r : Resource) (w : World σ) :
    (o.observe r w).1 = r.decision o.mode w.answer ∧
      w.traffic (o.observe r w).2 = o.traffic r w :=
  ⟨o.observe_result r w, (o.carries_observe r w).traffic_eq⟩

end Observer

end DesiredState
