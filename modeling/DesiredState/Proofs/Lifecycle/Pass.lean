import DesiredState.Lifecycle.Verbs
import DesiredState.Proofs.Lifecycle.Decision

/-!
# What one pass does

One statement for each verb: all the results that it can have, and its traffic. Later arguments
about passes start from these and do not open the verbs.

* `Resource.decision_eq_ok_iff`: when an observation is no error.
* `Manager.observe_cases`: absence, an error, or an exchange that is recorded.
* `Manager.deploy_cases`: a response that is recorded, or an error.
* `Manager.reconcile_eq`: **a pass is an observation and at most one request after it**, which the
  finding selects.
* `Manager.carries_reconcile`: the traffic of a pass.
-/

namespace DesiredState

theorem Resource.resolve_ne_objectNotFound (r : Resource) (method : Method) :
    r.resolve method ≠ .error .objectNotFound := by
  unfold Resource.resolve Resource.generate
  split
  · simp
  · split
    · simp
    · split <;> simp

namespace World

variable {σ : Type} (w : World σ) (q : Request)

theorem answer_ne_objectNotFound : w.answer q ≠ .error .objectNotFound := by
  unfold answer
  split
  · simp
  · split
    · simp
    · split <;> simp

end World

namespace Resource

variable {r : Resource} {mode : ArrayMode} {answer : Request → Except Failure Response}
  {exchange : Exchange} {transportError : Option Text} {o : Observation}

theorem judged_ne_objectNotFound :
    r.judged mode exchange transportError ≠ .error .objectNotFound := by
  unfold judged
  cases h : r.resolve .put with
  | error e =>
    rintro hnot
    simp only [Except.error.injEq] at hnot
    exact r.resolve_ne_objectNotFound .put (h.trans (by rw [hnot]))
  | ok put =>
    simp only
    split
    · simp
    · split <;> simp

/-- **When an exchange is judged**: the desired state resolves, and it is a JSON object exactly if the
observed one is. -/
theorem judged_eq_ok_iff :
    r.judged mode exchange transportError = .ok o ↔
      ∃ put, r.resolve .put = .ok put ∧
        (put.body.IsObject ↔ exchange.response.body.IsObject) ∧
        o = ⟨decide (InSync mode exchange.response.body put.body exchange.response.status), exchange,
          transportError⟩ := by
  unfold judged
  cases r.resolve .put with
  | error e => simp
  | ok put =>
    simp only [Except.ok.injEq, exists_eq_left']
    by_cases hdesired : put.body.IsObject <;>
      by_cases hobserved : exchange.response.body.IsObject <;>
        simp [hdesired, hobserved, eq_comm]

/-- A judgement that is no error keeps the exchange, and is in sync only with success. -/
theorem judged_ok (h : r.judged mode exchange transportError = .ok o) :
    o.exchange = exchange ∧ o.transportError = transportError ∧
      (o.synced = true → StatusCode.isSuccess exchange.response.status = true) := by
  obtain ⟨put, -, -, rfl⟩ := judged_eq_ok_iff.1 h
  refine ⟨rfl, rfl, fun hsync => ?_⟩
  have hin := of_decide_eq_true hsync
  exact StatusCode.isSuccess_iff.2 ⟨hin.1, hin.2.1⟩

/-- What a GET request leaves to judge: a response other than 404, or an empty one beside the error
of the transport. -/
inductive Leaves (answer : Request → Except Failure Response) (q : Request) :
    Exchange → Option Text → Prop
  | response {response : Response} : answer q = .ok response →
    response.status ≠ StatusCode.notFound → Leaves answer q ⟨q, response⟩ none
  | failure {message : Text} : answer q = .error (.transport message) →
    Leaves answer q ⟨q, .empty⟩ (some message)

/-- **When an observation is no error**: something is recorded, the GET request resolves, and what it
leaves is judged. -/
theorem decision_eq_ok_iff :
    r.decision mode answer = .ok o ↔
      ¬ r.NothingRecorded ∧ ∃ get exchange transportError, r.resolve .get = .ok get ∧
        Leaves answer (get.toRequest .get) exchange transportError ∧
        r.judged mode exchange transportError = .ok o := by
  unfold decision
  by_cases hr : r.NothingRecorded
  · simp [hr]
  rw [if_neg hr]
  cases r.resolve .get with
  | error e => simp
  | ok get =>
    simp only [hr, not_false_eq_true, true_and, Except.ok.injEq]
    constructor
    · intro h
      generalize ha : answer (get.toRequest .get) = a at h
      rcases a with e | response
      · cases e with
        | transport message => exact ⟨get, _, _, rfl, .failure ha, h⟩
        | _ => cases h
      · dsimp only at h
        split at h
        · cases h
        · next h404 => exact ⟨get, _, _, rfl, .response ha h404, h⟩
    · rintro ⟨_, exchange, transportError, rfl, hleaves, h⟩
      cases hleaves with
      | response ha h404 =>
        rw [ha]
        dsimp only
        rw [if_neg h404]
        exact h
      | failure ha =>
        rw [ha]
        exact h

/-- There is no object if and only if nothing is recorded or the GET request is answered so. -/
theorem decision_eq_objectNotFound_iff (hanswer : ∀ q, answer q ≠ .error .objectNotFound) :
    r.decision mode answer = .error .objectNotFound ↔
      r.NothingRecorded ∨ ∃ get response, r.resolve .get = .ok get ∧
        answer (get.toRequest .get) = .ok response ∧ response.status = StatusCode.notFound := by
  unfold decision
  by_cases hr : r.NothingRecorded
  · simp [hr]
  rw [if_neg hr]
  -- the errors of the other stages are never this one
  cases hget : r.resolve .get with
  | error e =>
    have he : e ≠ .objectNotFound := fun he => r.resolve_ne_objectNotFound .get (he ▸ hget)
    simp [hr, he]
  | ok get =>
    simp only [hr, false_or, Except.ok.injEq, exists_and_left, exists_eq_left']
    have hne := hanswer (get.toRequest .get)
    generalize answer (get.toRequest .get) = a at hne ⊢
    rcases a with e | response
    · cases e with
      | objectNotFound => exact absurd rfl hne
      | transport message => simp [judged_ne_objectNotFound]
      | _ => simp
    · by_cases h404 : response.status = StatusCode.notFound <;>
        simp [h404, judged_ne_objectNotFound]

/-- An observation that is no error is of something recorded. Its request is the GET request, and
it is in sync only after a response of success. -/
theorem decision_ok (h : r.decision mode answer = .ok o) :
    ¬ r.NothingRecorded ∧ o.exchange.request.method = Method.get.name ∧
      (o.synced = true → o.transportError = none ∧
        StatusCode.isSuccess o.exchange.response.status = true) := by
  obtain ⟨hr, get, exchange, transportError, -, hleaves, hjudged⟩ := decision_eq_ok_iff.1 h
  obtain ⟨rfl, rfl, hsync⟩ := judged_ok hjudged
  refine ⟨hr, ?_⟩
  generalize o.exchange = exchange at hleaves hsync ⊢
  generalize o.transportError = transportError at hleaves ⊢
  cases hleaves with
  | response => exact ⟨rfl, fun hs => ⟨rfl, hsync hs⟩⟩
  | failure =>
    -- an empty response is no success
    refine ⟨rfl, fun hs => ?_⟩
    have h0 := hsync hs
    cases h0

/-- The resource with what an observation records: the exchange or the error of the transport, and
a cleared count of failures when it is in sync. -/
def observed (r : Resource) (o : Observation) : Resource :=
  let r := if o.synced then r.resetFailures else r
  r.withStatus (r.status.after o.exchange o.transportError)

/-- What is declared stays as it is. -/
theorem observed_spec (r : Resource) (o : Observation) : (r.observed o).spec = r.spec := by
  unfold observed
  cases o.synced <;> rfl

end Resource

namespace Store

variable {σ : Type} (store : Store σ) (r : Resource) (exchange : Exchange)
  (transportError : Option Text)

/-- A record is the resource with its next status, unless the store refuses it. -/
theorem record_cases (w : World σ) :
    (store.record r exchange transportError w).1 =
        .ok (r.withStatus (r.status.after exchange transportError)) ∨
      ∃ cause, (store.record r exchange transportError w).1 =
        .error (.statusNotSaved r.name cause) := by
  unfold record keep
  rcases store.save (r.withStatus (r.status.after exchange transportError)) w.store with
    ⟨cause | _, s⟩
  · exact .inr ⟨cause, rfl⟩
  · exact .inl rfl

/-- The store accepts every resource. -/
def RefusesNothing (store : Store σ) : Prop := ∀ r s, (store.save r s).1 = .ok ()

theorem record_of_refusesNothing {store : Store σ} (h : store.RefusesNothing) (w : World σ) :
    (store.record r exchange transportError w).1 =
      .ok (r.withStatus (r.status.after exchange transportError)) := by
  have hsave := h (r.withStatus (r.status.after exchange transportError)) w.store
  unfold record keep
  generalize store.save (r.withStatus (r.status.after exchange transportError)) w.store = saved
    at hsave ⊢
  obtain ⟨result, s⟩ := saved
  subst hsave
  rfl

theorem carries_record {w w' : World σ} {t : Traffic} (h : w.Carries t w') :
    w.Carries t (store.record r exchange transportError w').2 := by
  unfold record keep
  rcases store.save (r.withStatus (r.status.after exchange transportError)) w'.store with
    ⟨cause | _, s⟩ <;>
  exact ⟨h.sent, h.arrivals, h.replies⟩

end Store

/-- The request that a pass makes after its observation, if it makes one. -/
def Finding.action (found : Finding) (deleting : Bool) : Option Method :=
  if deleting then if found.present then some .delete else none
  else if !found.present then some .post
  else if !found.upToDate then some .put
  else none

/-- What a pass has done when it does not fail. -/
def Finding.outcome (found : Finding) (deleting : Bool) : Outcome :=
  if deleting then if found.present then .deleted else .absent
  else if !found.present then .created
  else if !found.upToDate then .updated
  else .upToDate

/-- No GET request follows the observation. -/
theorem Finding.action_ne_get (found : Finding) (deleting : Bool) :
    found.action deleting ≠ some .get := by
  obtain ⟨present, upToDate, r, o⟩ := found
  cases deleting <;> cases present <;> cases upToDate <;> exact nofun

namespace Manager

variable {σ : Type} (m : Manager σ) (r : Resource) (w : World σ) (method : Method) (deleting : Bool)

/-- **All results of observing a resource.** -/
theorem observe_cases :
    (r.decision m.observer.mode w.answer = .error .objectNotFound ∧
      (m.observe r w).1 = .ok ⟨false, false, r, .none⟩) ∨
    (∃ e, r.decision m.observer.mode w.answer = .error e ∧ e ≠ .objectNotFound ∧
      (m.observe r w).1 = .error e) ∨
    ∃ o, r.decision m.observer.mode w.answer = .ok o ∧
      ((m.observe r w).1 = .ok ⟨true, o.synced, r.observed o, o⟩ ∨
        ∃ cause, (m.observe r w).1 = .error (.statusNotSaved r.name cause)) := by
  have h := m.observer.observe_result r w
  unfold observe
  generalize m.observer.observe r w = seen at h ⊢
  obtain ⟨result, w'⟩ := seen
  simp only at h
  rw [← h]
  rcases result with e | o
  · cases e with
    | objectNotFound => exact .inl ⟨rfl, rfl⟩
    | _ => exact .inr (.inl ⟨_, rfl, nofun, rfl⟩)
  · refine .inr (.inr ⟨o, rfl, ?_⟩)
    have hrecord := m.store.record_cases (if o.synced then r.resetFailures else r) o.exchange
      o.transportError w'
    dsimp only
    generalize m.store.record (if o.synced then r.resetFailures else r) o.exchange
      o.transportError w' = kept at hrecord ⊢
    obtain ⟨result, w''⟩ := kept
    simp only at hrecord
    rcases hrecord with rfl | ⟨cause, rfl⟩
    · exact .inl rfl
    · exact .inr ⟨cause, by cases o.synced <;> rfl⟩

/-- An error of the decision other than that there is no object is the error of the verb. -/
theorem observe_of_error {e : Failure} (h : r.decision m.observer.mode w.answer = .error e)
    (hne : e ≠ .objectNotFound) : (m.observe r w).1 = .error e := by
  rcases m.observe_cases r w with ⟨hd, -⟩ | ⟨e', hd, -, he⟩ | ⟨o, hd, -⟩ <;> rw [h] at hd <;> cases hd
  · exact absurd rfl hne
  · exact he

/-- With a store that refuses nothing, what an observation sees is found and recorded. -/
theorem observe_of_refusesNothing (hstore : m.store.RefusesNothing) {o : Observation}
    (h : r.decision m.observer.mode w.answer = .ok o) :
    (m.observe r w).1 = .ok ⟨true, o.synced, r.observed o, o⟩ := by
  have hseen := m.observer.observe_result r w
  unfold observe
  generalize m.observer.observe r w = seen at hseen ⊢
  obtain ⟨result, w'⟩ := seen
  rw [h] at hseen
  dsimp only at hseen
  subst hseen
  dsimp only
  have hrecord := Store.record_of_refusesNothing (if o.synced then r.resetFailures else r)
    o.exchange o.transportError hstore w'
  generalize m.store.record (if o.synced then r.resetFailures else r) o.exchange
    o.transportError w' = kept at hrecord ⊢
  obtain ⟨result, w''⟩ := kept
  dsimp only at hrecord
  subst hrecord
  rfl

theorem carries_observe : w.Carries (m.observer.traffic r w) (m.observe r w).2 := by
  have h := m.observer.carries_observe r w
  unfold observe
  generalize m.observer.observe r w = seen at h ⊢
  obtain ⟨result, w'⟩ := seen
  rcases result with e | o
  · cases e with
    | objectNotFound => exact h.debug _ _
    | _ => exact h
  · have hrecord := m.store.carries_record (if o.synced then r.resetFailures else r) o.exchange
      o.transportError h
    dsimp only
    generalize m.store.record (if o.synced then r.resetFailures else r) o.exchange
      o.transportError w' = kept at hrecord ⊢
    obtain ⟨result, w''⟩ := kept
    cases result <;> exact hrecord

/-- **All results of the request of a method.** -/
theorem deploy_cases :
    (∃ q response, r.resolve method = .ok q ∧ w.answer (q.toRequest method) = .ok response ∧
      (m.deploy method r w).1 =
        .ok (r.withStatus (r.status.after ⟨q.toRequest method, response⟩ none))) ∨
    ∃ e, (m.deploy method r w).1 = .error e := by
  unfold deploy Resource.resolveLogged
  cases hq : r.resolve method with
  | error e => exact .inr ⟨e, rfl⟩
  | ok q =>
    dsimp only
    generalize hw₁ : (w.debug Resource.resolutionLogger (r.resolutionMessage method)).debug logger
      (method.name ++ " " ++ q.url ++ " for " ++ r.name) = w₁
    have h := m.observer.client.send_result (q.toRequest method) r.spec.skipTlsVerify w₁
    generalize m.observer.client.send (q.toRequest method) r.spec.skipTlsVerify w₁ = sent at h ⊢
    obtain ⟨result, w'⟩ := sent
    -- messages in the log do not change what the request comes to
    have hanswer : w₁.answer (q.toRequest method) = w.answer (q.toRequest method) := by
      subst hw₁
      rfl
    rw [hanswer] at h
    generalize ha : w.answer (q.toRequest method) = a at h
    simp only at h
    subst h
    rcases a with e | response
    · cases e <;> exact .inr ⟨_, rfl⟩
    · rcases m.store.record_cases r ⟨q.toRequest method, response⟩ none w' with hrec | ⟨cause, hrec⟩
      · exact .inl ⟨q, response, rfl, ha, hrec⟩
      · exact .inr ⟨_, hrec⟩

theorem carries_deploy :
    w.Carries (r.trafficOf m.observer.client method w) (m.deploy method r w).2 := by
  unfold deploy Resource.resolveLogged Resource.trafficOf
  cases r.resolve method with
  | error e => exact .refl w
  | ok q =>
    dsimp only
    have h := m.observer.client.carries_send (q.toRequest method) r.spec.skipTlsVerify
      ((w.debug Resource.resolutionLogger (r.resolutionMessage method)).debug logger
        (method.name ++ " " ++ q.url ++ " for " ++ r.name))
    generalize m.observer.client.send (q.toRequest method) r.spec.skipTlsVerify
      ((w.debug Resource.resolutionLogger (r.resolutionMessage method)).debug logger
        (method.name ++ " " ++ q.url ++ " for " ++ r.name)) = sent at h ⊢
    obtain ⟨result, w'⟩ := sent
    have hw : w.Carries (m.observer.client.trafficOf (q.toRequest method) r.spec.skipTlsVerify w)
        w' := h.of_debug.of_debug
    rcases result with e | exchange
    · cases e <;> exact hw
    · exact m.store.carries_record r exchange none hw

/-- **A pass is an observation and at most one request after it.** -/
theorem reconcile_eq :
    m.reconcile r deleting w =
      match m.observe r w with
      | (.error e, w) => (.error e, w)
      | (.ok found, w) =>
        match found.action deleting with
        | none => (.ok (found.outcome deleting, found.resource), w)
        | some method =>
          concluding (found.outcome deleting) (m.deploy method found.resource w) := by
  unfold reconcile Finding.action Finding.outcome create update delete
  rcases m.observe r w with ⟨e | ⟨present, upToDate, found, o⟩, w'⟩
  · rfl
  · cases deleting <;> cases present <;> cases upToDate <;> rfl

/-- A pass whose finding selects no request ends with what was found. -/
theorem reconcile_of_action_none {found : Finding} (hfound : (m.observe r w).1 = .ok found)
    (h : found.action deleting = none) :
    (m.reconcile r deleting w).1 = .ok (found.outcome deleting, found.resource) := by
  rw [reconcile_eq]
  generalize m.observe r w = seen at hfound
  obtain ⟨result, w'⟩ := seen
  dsimp only at hfound
  subst hfound
  dsimp only
  rw [h]

/-- A pass fails as its observation or as the request after it. -/
theorem reconcile_eq_error_iff {e : Failure} :
    (m.reconcile r deleting w).1 = .error e ↔
      (m.observe r w).1 = .error e ∨
        ∃ found method, (m.observe r w).1 = .ok found ∧ found.action deleting = some method ∧
          (m.deploy method found.resource (m.observe r w).2).1 = .error e := by
  rw [reconcile_eq]
  generalize m.observe r w = seen
  obtain ⟨result, w'⟩ := seen
  rcases result with e' | found
  · simp
  · simp only [reduceCtorEq, Except.ok.injEq, false_or, exists_and_left, exists_eq_left']
    cases found.action deleting with
    | none => simp
    | some method =>
      simp only [Option.some.injEq, exists_eq_left']
      generalize m.deploy method found.resource w' = done
      obtain ⟨result, w''⟩ := done
      cases result <;> simp [concluding]

/-- The traffic of a pass: that of its observation, and that of the request after it. -/
def traffic : Traffic :=
  m.observer.traffic r w ++
    match (m.observe r w).1 with
    | .error _ => []
    | .ok found =>
      match found.action deleting with
      | none => []
      | some method =>
        found.resource.trafficOf m.observer.client method (m.observe r w).2

theorem carries_reconcile : w.Carries (m.traffic r w deleting) (m.reconcile r deleting w).2 := by
  have h := m.carries_observe r w
  rw [reconcile_eq]
  unfold traffic
  generalize m.observe r w = seen at h ⊢
  obtain ⟨result, w'⟩ := seen
  rcases result with e | found
  · rw [List.append_nil]
    exact h
  dsimp only
  cases found.action deleting with
  | none =>
    rw [List.append_nil]
    exact h
  | some method =>
    have hdeploy := h.trans (m.carries_deploy found.resource w' method)
    dsimp only
    generalize m.deploy method found.resource w' = done at hdeploy ⊢
    obtain ⟨result, w''⟩ := done
    cases result <;> exact hdeploy

/-- A pass that does not fail has a finding, and either stops there or records the response to its
request. -/
theorem reconcile_ok {outcome : Outcome} {r' : Resource}
    (h : (m.reconcile r deleting w).1 = .ok (outcome, r')) :
    ∃ found, (m.observe r w).1 = .ok found ∧ outcome = found.outcome deleting ∧
      ((found.action deleting = none ∧ r' = found.resource) ∨
        ∃ method q response, found.action deleting = some method ∧
          found.resource.resolve method = .ok q ∧
          (m.observe r w).2.answer (q.toRequest method) = .ok response ∧
          r' = found.resource.withStatus
            (found.resource.status.after ⟨q.toRequest method, response⟩ none)) := by
  rw [reconcile_eq] at h
  generalize m.observe r w = seen at h ⊢
  obtain ⟨result, w'⟩ := seen
  rcases result with e | found
  · cases h
  refine ⟨found, rfl, ?_⟩
  dsimp only at h ⊢
  cases haction : found.action deleting with
  | none =>
    rw [haction] at h
    cases h
    exact ⟨rfl, .inl ⟨rfl, rfl⟩⟩
  | some method =>
    rw [haction] at h
    dsimp only at h
    have hdeploy := m.deploy_cases found.resource w' method
    generalize m.deploy method found.resource w' = done at h hdeploy
    obtain ⟨result, w''⟩ := done
    rcases hdeploy with ⟨q, response, hq, hanswer, hresult⟩ | ⟨e, hresult⟩
    · simp only at hresult
      subst hresult
      cases h
      exact ⟨rfl, .inr ⟨method, q, response, rfl, hq, hanswer, rfl⟩⟩
    · simp only at hresult
      subst hresult
      cases h

end Manager

end DesiredState
