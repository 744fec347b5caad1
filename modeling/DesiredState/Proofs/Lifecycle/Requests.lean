import DesiredState.Proofs.Lifecycle.Run
import DesiredState.Proofs.Lifecycle.Stages

/-!
# The requests of a pass

Which requests one pass sends, in which order, and what must have been learned before each of them.
A request that changes the remote object goes out only for a reason: POST after nothing was
recorded or nothing was found, PUT after a difference was seen, DELETE after the object was seen.

* `Resource.GoesOut`: a request is handed to the transport.
* `Manager.Disciplined`: the discipline of a pass.
* `Manager.reconcile_disciplined`: **every pass keeps to it, and an observation alone sends at most
  one GET request.**
-/

namespace DesiredState

variable {σ : Type}

namespace Traffic

variable {t t' : Traffic} {m : Method}

/-- The methods of the requests, in the order in which they were sent. -/
def methods (t : Traffic) : List Text := t.map fun x => x.1.method

@[simp] theorem methods_nil : methods [] = [] := rfl

@[simp] theorem methods_append : methods (t ++ t') = t.methods ++ t'.methods := List.map_append

theorem sends_iff_mem_methods : t.Sends m ↔ m.name ∈ t.methods := by
  unfold Sends methods
  rw [List.mem_map]

theorem sends_singleton_iff {m' : Method} (h : t.methods = [m'.name]) : t.Sends m ↔ m = m' := by
  rw [sends_iff_mem_methods, h, List.mem_singleton]
  exact ⟨Method.name_injective, congrArg Method.name⟩

end Traffic

namespace World

variable {w : World σ} {q : Request}

/-- Without cancellation, a request comes to something else than a fault of its encoding only if its
body has one. -/
theorem noSurrogates_of_answer (hw : w.event ≠ .set)
    (h : ∀ fault, w.answer q ≠ .error (.encoding fault)) : q.body.NoSurrogates := by
  rw [← Text.utf8Fault?_eq_none_iff]
  cases hf : Text.utf8Fault? q.body with
  | none => rfl
  | some fault =>
    refine absurd ?_ (h fault)
    unfold answer
    rw [if_neg hw]
    simp only [hf]

theorem event_ne_set_of_answer {response : Response} (h : w.answer q = .ok response) :
    w.event ≠ .set := by
  intro hw
  unfold answer at h
  rw [if_pos hw] at h
  cases h

end World

namespace Resource

variable {r : Resource} {c : Client} {w : World σ} {method method' : Method} {mode : ArrayMode}
  {o : Observation}

/-- The request of a method is handed to the transport: its mapping resolves, the event is not set,
and its body has an encoding. -/
def GoesOut (r : Resource) (method : Method) (w : World σ) : Prop :=
  ∃ q, r.resolve method = .ok q ∧ w.event ≠ .set ∧ q.body.NoSurrogates

theorem methods_trafficOf_of_goesOut (h : r.GoesOut method w) :
    (r.trafficOf c method w).methods = [method.name] := by
  obtain ⟨q, hq, hw, hbody⟩ := h
  have hnone : Text.utf8Fault? (q.toRequest method).body = none :=
    Text.utf8Fault?_eq_none_iff.2 hbody
  unfold trafficOf Client.trafficOf
  simp only [hq, hw, hnone, Option.isSome_none, Bool.false_eq_true, or_self, if_false]
  rfl

theorem trafficOf_of_not_goesOut (h : ¬ r.GoesOut method w) : r.trafficOf c method w = [] := by
  unfold trafficOf
  cases hq : r.resolve method with
  | error e => rfl
  | ok q =>
    refine if_pos ?_
    by_contra hnot
    obtain ⟨hw, hsome⟩ := not_or.1 hnot
    have hnone : Text.utf8Fault? q.body = none := by
      simpa [ResolvedRequest.toRequest] using hsome
    exact h ⟨q, hq, hw, Text.utf8Fault?_eq_none_iff.1 hnone⟩

/-- A request is the whole traffic of its method, or there is none. -/
theorem methods_trafficOf (r : Resource) (c : Client) (method : Method) (w : World σ) :
    (r.trafficOf c method w).methods = [] ∨ (r.trafficOf c method w).methods = [method.name] := by
  by_cases h : r.GoesOut method w
  · exact .inr (methods_trafficOf_of_goesOut h)
  · exact .inl (by rw [trafficOf_of_not_goesOut h, Traffic.methods_nil])

theorem trafficOf_sends_iff :
    (r.trafficOf c method w).Sends method' ↔ method' = method ∧ r.GoesOut method w := by
  by_cases h : r.GoesOut method w
  · rw [Traffic.sends_singleton_iff (methods_trafficOf_of_goesOut h)]
    exact ⟨fun hm => ⟨hm, h⟩, And.left⟩
  · rw [trafficOf_of_not_goesOut h]
    exact ⟨fun hs => absurd hs Traffic.not_sends_nil, fun hs => absurd hs.2 h⟩

/-- An observation that does not fail has sent its GET request, unless it was cancelled. -/
theorem goesOut_of_decision_ok (h : r.decision mode w.answer = .ok o) (hw : w.event ≠ .set) :
    r.GoesOut .get w := by
  obtain ⟨-, get, exchange, transportError, hget, hleaves, -⟩ := decision_eq_ok_iff.1 h
  refine ⟨get, hget, hw, World.noSurrogates_of_answer (q := get.toRequest .get) hw ?_⟩
  intro fault hfault
  cases hleaves with
  | response hanswer _ | failure hanswer =>
    rw [hfault] at hanswer
    cases hanswer

/-- An object is in sync only after a response to a GET request that was sent. -/
theorem goesOut_of_synced (h : r.decision mode w.answer = .ok o) (hs : o.synced = true) :
    r.GoesOut .get w := by
  have hnone := ((decision_ok h).2.2 hs).1
  refine goesOut_of_decision_ok h ?_
  obtain ⟨-, get, exchange, transportError, -, hleaves, hjudged⟩ := decision_eq_ok_iff.1 h
  have herror := (judged_ok hjudged).2.1
  rw [hnone] at herror
  subst herror
  cases hleaves with
  | response hanswer _ => exact World.event_ne_set_of_answer hanswer

end Resource

/-! ### The event stays set -/

theorem Client.event_send (c : Client) (q : Request) (skip : Bool) {w : World σ}
    (hw : w.event = .set) : (c.send q skip w).2.event = .set := by
  unfold send
  rw [if_pos hw]
  exact hw

theorem Client.invariant_event (c : Client) :
    c.Invariant fun w : World σ => w.event = .set where
  debug hw _ _ := hw
  send hw q skip := c.event_send q skip hw

theorem Store.event_record (store : Store σ) (r : Resource) (exchange : Exchange)
    (transportError : Option Text) (w : World σ) :
    (store.record r exchange transportError w).2.event = w.event := by
  unfold record keep
  rcases store.save (r.withStatus (r.status.after exchange transportError)) w.store with
    ⟨cause | _, s⟩ <;> rfl

namespace Observer

variable {o : Observer} {r : Resource} {w : World σ} {method : Method}

/-- The requests of an observation: one GET request or none. -/
theorem methods_traffic (o : Observer) (r : Resource) (w : World σ) :
    (o.traffic r w).methods = [] ∨ (o.traffic r w).methods = [Method.get.name] := by
  unfold traffic
  split
  · exact .inl rfl
  · exact r.methods_trafficOf o.client .get w

theorem traffic_sends_iff :
    (o.traffic r w).Sends method ↔ method = .get ∧ ¬ r.NothingRecorded ∧ r.GoesOut .get w := by
  unfold traffic
  by_cases hr : r.NothingRecorded
  · rw [if_pos hr]
    exact ⟨fun h => absurd h Traffic.not_sends_nil, fun h => absurd hr h.2.1⟩
  · rw [if_neg hr, Resource.trafficOf_sends_iff]
    exact ⟨fun h => ⟨h.1, hr, h.2⟩, fun h => ⟨h.1, h.2.2⟩⟩

end Observer

/-- What was found when a request is selected. -/
theorem Finding.action_cases {found : Finding} {deleting : Bool} {method : Method}
    (h : found.action deleting = some method) :
    (method = .post ∧ deleting = false ∧ found.present = false) ∨
      (method = .put ∧ deleting = false ∧ found.present = true ∧ found.upToDate = false) ∨
      (method = .delete ∧ deleting = true ∧ found.present = true) := by
  obtain ⟨present, upToDate, resource, observation⟩ := found
  cases deleting <;> cases present <;> cases upToDate <;> cases h <;> simp

namespace Manager

variable {m : Manager σ} {r : Resource} {w : World σ} {deleting : Bool} {method : Method}
  {found : Finding}

theorem invariant_event (m : Manager σ) : m.Invariant fun w : World σ => w.event = .set where
  client := m.observer.client.invariant_event
  record hw r exchange transportError := (m.store.event_record r exchange transportError _).trans hw

theorem event_observe (hw : w.event = .set) : (m.observe r w).2.event = .set :=
  m.invariant_event.observe r hw

/-- The requests that follow the observation. -/
def followUp (m : Manager σ) (r : Resource) (deleting : Bool) (w : World σ) : Traffic :=
  match (m.observe r w).1 with
  | .error _ => []
  | .ok found =>
    match found.action deleting with
    | none => []
    | some method => found.resource.trafficOf m.observer.client method (m.observe r w).2

theorem traffic_eq_append : m.traffic r w deleting = m.observer.traffic r w ++
    m.followUp r deleting w := rfl

/-- The request that follows the observation is the one that the finding selects, if it goes
out. -/
theorem followUp_sends_iff : (m.followUp r deleting w).Sends method ↔
    ∃ found, (m.observe r w).1 = .ok found ∧ found.action deleting = some method ∧
      found.resource.GoesOut method (m.observe r w).2 := by
  unfold followUp
  cases hfound : (m.observe r w).1 with
  | error e => simp [Traffic.not_sends_nil]
  | ok found =>
    simp only [Except.ok.injEq, exists_eq_left']
    cases haction : found.action deleting with
    | none => simp [Traffic.not_sends_nil]
    | some method' =>
      simp only [Resource.trafficOf_sends_iff, Option.some.injEq]
      constructor
      · rintro ⟨rfl, hout⟩
        exact ⟨rfl, hout⟩
      · rintro ⟨rfl, hout⟩
        exact ⟨rfl, hout⟩

theorem methods_followUp (hfound : (m.observe r w).1 = .ok found)
    (haction : found.action deleting = some method)
    (hout : found.resource.GoesOut method (m.observe r w).2) :
    (m.followUp r deleting w).methods = [method.name] := by
  unfold followUp
  rw [hfound]
  simp only [haction]
  exact Resource.methods_trafficOf_of_goesOut hout

theorem followUp_eq_nil (h : ∀ method, ¬ (m.followUp r deleting w).Sends method) :
    m.followUp r deleting w = [] := by
  unfold followUp at h ⊢
  cases hfound : (m.observe r w).1 with
  | error e => rfl
  | ok found =>
    simp only [hfound] at h ⊢
    cases haction : found.action deleting with
    | none => rfl
    | some method =>
      simp only [haction, Resource.trafficOf_sends_iff] at h ⊢
      exact Resource.trafficOf_of_not_goesOut fun hout => h method ⟨rfl, hout⟩

/-- What follows the observation of an object follows its GET request. -/
theorem methods_traffic_of_present (hfound : (m.observe r w).1 = .ok found)
    (hpresent : found.present = true)
    (hout : found.resource.GoesOut method (m.observe r w).2) :
    (m.observer.traffic r w).methods = [Method.get.name] := by
  rcases finding_cases hfound with ⟨-, rfl⟩ | ⟨o, ho, rfl⟩
  · cases hpresent
  -- a cancelled observation leaves the event set, and then nothing goes out after it
  have hw : w.event ≠ .set := fun hset => by
    obtain ⟨-, -, hne, -⟩ := hout
    exact hne (event_observe hset)
  have hr := (Resource.decision_ok ho).1
  have hget := Resource.goesOut_of_decision_ok ho hw
  unfold Observer.traffic
  rw [if_neg hr]
  exact Resource.methods_trafficOf_of_goesOut hget

/-- The orders in which a pass sends its requests. -/
def orders : List (List Method) :=
  [[], [.get], [.post], [.get, .post], [.get, .put], [.get, .delete]]

/-- **The discipline of a pass** with the traffic `t`. -/
structure Disciplined (m : Manager σ) (r : Resource) (deleting : Bool) (w : World σ)
    (t : Traffic) : Prop where
  order : ∃ ms ∈ orders, t.methods = ms.map Method.name
  /-- The GET request is sent exactly if the gate lets the resource through and it can go out. -/
  get : t.Sends .get ↔ ¬ r.NothingRecorded ∧ r.GoesOut .get w
  /-- Any other request is sent exactly if the finding selects it and it can go out. -/
  other : ∀ method, method ≠ .get → (t.Sends method ↔
    ∃ found, (m.observe r w).1 = .ok found ∧ found.action deleting = some method ∧
      found.resource.GoesOut method (m.observe r w).2)
  post : t.Sends .post → deleting = false ∧
    ((r.NothingRecorded ∧ ¬ t.Sends .get) ∨ ∃ body, t.Answered .get StatusCode.notFound body)
  put : t.Sends .put → deleting = false ∧
    ∃ found, (m.observe r w).1 = .ok found ∧ found.present = true ∧ found.upToDate = false
  delete : t.Sends .delete → deleting = true ∧
    ∃ found, (m.observe r w).1 = .ok found ∧ found.present = true
  /-- After a GET request that is judged in sync, a pass of keeping sends nothing more. -/
  inSync : ∀ o, (m.observer.observe r w).1 = .ok o → o.synced = true → deleting = false →
    t.methods = [Method.get.name]
  /-- When the observation fails, what it sent is all that was sent. -/
  observationFails : ∀ e, (m.observe r w).1 = .error e → w.Carries t (m.observe r w).2
  /-- When the request after the observation fails, nothing is sent after it. -/
  requestFails : ∀ found method e, (m.observe r w).1 = .ok found →
    found.action deleting = some method →
    (m.deploy method found.resource (m.observe r w).2).1 = .error e →
    w.Carries t (m.deploy method found.resource (m.observe r w).2).2

theorem traffic_sends_get_iff :
    (m.traffic r w deleting).Sends .get ↔ ¬ r.NothingRecorded ∧ r.GoesOut .get w := by
  rw [traffic_eq_append, Traffic.sends_append, Observer.traffic_sends_iff, followUp_sends_iff]
  constructor
  · rintro (⟨-, h⟩ | ⟨found, -, haction, -⟩)
    · exact h
    · exact absurd haction (found.action_ne_get deleting)
  · exact fun h => .inl ⟨rfl, h⟩

theorem traffic_sends_iff (hmethod : method ≠ .get) :
    (m.traffic r w deleting).Sends method ↔
      ∃ found, (m.observe r w).1 = .ok found ∧ found.action deleting = some method ∧
        found.resource.GoesOut method (m.observe r w).2 := by
  rw [traffic_eq_append, Traffic.sends_append, followUp_sends_iff, or_iff_right]
  exact fun h => hmethod (Observer.traffic_sends h)

/-- The requests of a pass stand in one of the orders. -/
theorem traffic_order : ∃ ms ∈ orders, (m.traffic r w deleting).methods = ms.map Method.name := by
  rw [traffic_eq_append, Traffic.methods_append]
  by_cases hsends : ∃ method, (m.followUp r deleting w).Sends method
  · obtain ⟨method, hsends⟩ := hsends
    obtain ⟨found, hfound, haction, hout⟩ := followUp_sends_iff.1 hsends
    rw [methods_followUp hfound haction hout]
    have hafter := fun hpresent => methods_traffic_of_present hfound hpresent hout
    rcases Finding.action_cases haction with ⟨rfl, -⟩ | ⟨rfl, -, hpresent, -⟩ | ⟨rfl, -, hpresent⟩
    · -- the object is missing: POST, with or without a GET request before it
      rcases m.observer.methods_traffic r w with hget | hget <;> rw [hget]
      · exact ⟨[.post], by simp [orders], rfl⟩
      · exact ⟨[.get, .post], by simp [orders], rfl⟩
    · rw [hafter hpresent]
      exact ⟨[.get, .put], by simp [orders], rfl⟩
    · rw [hafter hpresent]
      exact ⟨[.get, .delete], by simp [orders], rfl⟩
  · rw [followUp_eq_nil (not_exists.1 hsends), Traffic.methods_nil, List.append_nil]
    rcases m.observer.methods_traffic r w with hget | hget <;> rw [hget]
    · exact ⟨[], by simp [orders], rfl⟩
    · exact ⟨[.get], by simp [orders], rfl⟩

theorem traffic_post (h : (m.traffic r w deleting).Sends .post) : deleting = false ∧
    ((r.NothingRecorded ∧ ¬ (m.traffic r w deleting).Sends .get) ∨
      ∃ body, (m.traffic r w deleting).Answered .get StatusCode.notFound body) := by
  obtain ⟨found, -, haction, -⟩ := (traffic_sends_iff (by decide)).1 h
  obtain ⟨-, rfl, -⟩ | ⟨⟨⟩, -⟩ | ⟨⟨⟩, -⟩ := Finding.action_cases haction
  refine ⟨rfl, ?_⟩
  have hnone := objectNotFound_of_sends_post h
  rcases Observer.decision_eq_objectNotFound_iff_answered.1 hnone with hr | ⟨body, h404⟩
  · exact .inl ⟨hr, not_sends_get hr⟩
  · exact .inr ⟨body, Traffic.answered_append.2 (.inl h404)⟩

theorem traffic_put (h : (m.traffic r w deleting).Sends .put) : deleting = false ∧
    ∃ found, (m.observe r w).1 = .ok found ∧ found.present = true ∧ found.upToDate = false := by
  obtain ⟨found, hfound, haction, -⟩ := (traffic_sends_iff (by decide)).1 h
  obtain ⟨⟨⟩, -⟩ | ⟨-, hkeeping, hpresent, hdiffers⟩ | ⟨⟨⟩, -⟩ := Finding.action_cases haction
  exact ⟨hkeeping, found, hfound, hpresent, hdiffers⟩

theorem traffic_delete (h : (m.traffic r w deleting).Sends .delete) : deleting = true ∧
    ∃ found, (m.observe r w).1 = .ok found ∧ found.present = true := by
  obtain ⟨found, hfound, haction, -⟩ := (traffic_sends_iff (by decide)).1 h
  obtain ⟨⟨⟩, -⟩ | ⟨⟨⟩, -⟩ | ⟨-, hdeleting, hpresent⟩ := Finding.action_cases haction
  exact ⟨hdeleting, found, hfound, hpresent⟩

/-- In sync, the GET request is the whole traffic of a pass of keeping. -/
theorem traffic_inSync {o : Observation} (h : (m.observer.observe r w).1 = .ok o)
    (hs : o.synced = true) : (m.traffic r w false).methods = [Method.get.name] := by
  have hd : r.decision m.observer.mode w.answer = .ok o := by
    rw [← m.observer.observe_result r w, h]
  have hr := (Resource.decision_ok hd).1
  have hget : (m.observer.traffic r w).methods = [Method.get.name] := by
    unfold Observer.traffic
    rw [if_neg hr]
    exact Resource.methods_trafficOf_of_goesOut (Resource.goesOut_of_synced hd hs)
  have hnone : m.followUp r false w = [] := by
    refine followUp_eq_nil fun method hsends => ?_
    obtain ⟨found, hfound, haction, -⟩ := followUp_sends_iff.1 hsends
    rcases finding_cases hfound with ⟨hnot, -⟩ | ⟨o', ho', rfl⟩
    · rw [hd] at hnot
      cases hnot
    · rw [hd] at ho'
      cases ho'
      simp [Finding.action, hs] at haction
  rw [traffic_eq_append, hnone, List.append_nil, hget]

/-- **The discipline of a pass.** For every resource, store, event and reply, the requests of a pass
keep to the discipline, and an observation alone sends one GET request or nothing. -/
theorem reconcile_disciplined (m : Manager σ) (r : Resource) (deleting : Bool) (w : World σ) :
    (∃ t, w.Carries t (m.reconcile r deleting w).2 ∧ m.Disciplined r deleting w t) ∧
      ∃ t, w.Carries t (m.observe r w).2 ∧ (t.methods = [] ∨ t.methods = [Method.get.name]) := by
  have hcarries := m.carries_reconcile r w deleting
  refine ⟨⟨m.traffic r w deleting, hcarries, ?_⟩,
    m.observer.traffic r w, m.carries_observe r w, m.observer.methods_traffic r w⟩
  refine ⟨traffic_order, traffic_sends_get_iff, fun _ => traffic_sends_iff, traffic_post,
    traffic_put, traffic_delete, ?_, ?_, ?_⟩
  · rintro o ho hs rfl
    exact traffic_inSync ho hs
  · intro e he
    rw [reconcile_eq] at hcarries
    generalize m.observe r w = seen at he hcarries ⊢
    obtain ⟨result, w'⟩ := seen
    simp only at he
    subst he
    exact hcarries
  · intro found method e hfound haction he
    rw [reconcile_eq] at hcarries
    generalize m.observe r w = seen at hfound he hcarries ⊢
    obtain ⟨result, w'⟩ := seen
    simp only at hfound
    subst hfound
    simp only [haction] at he hcarries ⊢
    generalize m.deploy method found.resource w' = done at he hcarries ⊢
    obtain ⟨result, w''⟩ := done
    simp only at he
    subst he
    exact hcarries

end Manager

end DesiredState
