import DesiredState.Proofs.Lifecycle.Calls
import DesiredState.Proofs.Lifecycle.Memory
import DesiredState.Proofs.Lifecycle.Requests
import Mathlib.Logic.Relation

/-!
# Cancellation

The caller's event is looked at before each request and at no other time, and a reply may set it
while it is on its way. So the event can come before a verb, between the two requests of a pass, or
after the last one. Whenever it comes, nothing is sent after it, the reply that brought it is
recorded like any other, and a request that it stops has changed nothing.

* `World.eventAfter`: the event after so many replies.
* `World.Heeds`: each request in between was sent while the event was not set; it composes.
* `World.uninterrupted`: the same world with replies that set no event.
* `Manager.Refuses`: what a verb does when the event stops its request.
* `Manager.heeds_cancellation`: **nothing is sent once the event is set, a reply that sets it is
  recorded like any other, and a verb that meets it set saves nothing.**
-/

namespace DesiredState

variable {σ : Type}

namespace World

variable {w v w₁ w₂ : World σ} {t : Traffic} {n : Nat}

/-- The caller's event after `n` more replies. -/
def eventAfter (w : World σ) : Nat → Cancellation
  | 0 => w.event
  | n + 1 =>
    if (w.arrivals.getD n exhausted).cancels ∧ w.eventAfter n = .unset then .set
    else w.eventAfter n

/-- What is left of the replies after `n` of them goes on to set the event as before. -/
theorem eventAfter_add (harrivals : w₁.arrivals = w.arrivals.drop n)
    (hevent : w₁.event = w.eventAfter n) (k : Nat) :
    w₁.eventAfter k = w.eventAfter (n + k) := by
  induction k with
  | zero => exact hevent
  | succ k ih =>
    have hnext : w₁.arrivals.getD k exhausted = w.arrivals.getD (n + k) exhausted := by
      rw [harrivals, List.getD_eq_getElem?_getD, List.getD_eq_getElem?_getD, List.getElem?_drop]
    rw [← Nat.add_assoc, eventAfter, eventAfter, ih, hnext]

/-- A reply that is received may set the event. -/
theorem event_receive (w : World σ) : w.receive.2.event = w.eventAfter 1 := by
  unfold receive eventAfter eventAfter
  cases w.arrivals <;> rfl

/-- From one world to another, each request was sent while the event was not set: the one that
follows `n` replies while it was not set after these. -/
structure Heeds (w w' : World σ) : Prop where
  carried : w.Carries (w.traffic w') w'
  event : w'.event = w.eventAfter (w.traffic w').length
  unset : ∀ n < (w.traffic w').length, w.eventAfter n ≠ .set

/-- Without traffic and with the same event there is nothing to heed. -/
theorem Heeds.of_carries_nil (h : w.Carries [] w₁) (hevent : w₁.event = w.event) :
    w.Heeds w₁ where
  carried := by
    rw [h.traffic_eq]
    exact h
  event := by
    rw [h.traffic_eq]
    exact hevent
  unset := by
    rw [h.traffic_eq]
    exact fun _ hn => absurd hn (Nat.not_lt_zero _)

theorem Heeds.refl (w : World σ) : w.Heeds w := .of_carries_nil (.refl w) rfl

theorem Heeds.trans (h₁ : w.Heeds w₁) (h₂ : w₁.Heeds w₂) : w.Heeds w₂ := by
  have hcarried := h₁.carried.trans h₂.carried
  have hadd := eventAfter_add h₁.carried.arrivals h₁.event
  have htraffic : w.traffic w₂ = w.traffic w₁ ++ w₁.traffic w₂ := hcarried.traffic_eq
  refine ⟨htraffic ▸ hcarried, ?_, ?_⟩
  · rw [htraffic, List.length_append, h₂.event, hadd]
  · intro n hn
    rw [htraffic, List.length_append] at hn
    -- a request of the second part is counted from where the first part ended
    rcases Nat.lt_or_ge n (w.traffic w₁).length with hlt | hge
    · exact h₁.unset n hlt
    · have hsecond := h₂.unset (n - (w.traffic w₁).length) (by omega)
      rwa [hadd, Nat.add_sub_cancel' hge] at hsecond

/-- **Once the event is set, nothing is sent.** -/
theorem Heeds.sent_eq (h : w.Heeds w₁) (hw : w.event = .set) : w₁.sent = w.sent := by
  have hnone : w.traffic w₁ = [] := by
    cases htraffic : w.traffic w₁ with
    | nil => rfl
    | cons x t =>
      have hunset := h.unset 0 (by rw [htraffic]; exact Nat.succ_pos _)
      exact absurd hw hunset
  have hsent := h.carried.sent
  rwa [hnone, List.map_nil, List.append_nil] at hsent

end World

/-- One request heeds the event. -/
theorem Client.heeds_send (c : Client) (q : Request) (skip : Bool) (w : World σ) :
    w.Heeds (c.send q skip w).2 := by
  have hcarries := c.carries_send q skip w
  by_cases hw : w.event = .set
  · unfold trafficOf at hcarries
    rw [if_pos (.inl hw)] at hcarries
    exact .of_carries_nil hcarries ((c.event_send q skip hw).trans hw.symm)
  unfold trafficOf at hcarries
  -- a body that cannot be encoded is not handed over either
  cases hf : Text.utf8Fault? q.body with
  | some fault =>
    rw [hf, if_pos (.inr rfl)] at hcarries
    refine .of_carries_nil hcarries ?_
    unfold send
    rw [if_neg hw]
    simp only [hf]
    rfl
  | none =>
    rw [hf, if_neg (by simp [hw])] at hcarries
    have hevent : (c.send q skip w).2.event = w.eventAfter 1 := by
      have hreceived : (c.handed q skip w).receive.2.event = w.eventAfter 1 :=
        World.event_receive (c.handed q skip w)
      rw [send_eq_receive c q skip w hw hf]
      generalize (c.handed q skip w).receive = received at hreceived ⊢
      obtain ⟨reply, w'⟩ := received
      cases reply <;> exact hreceived
    refine ⟨?_, ?_, ?_⟩ <;> rw [hcarries.traffic_eq]
    · exact hcarries
    · exact hevent
    · intro n hn
      obtain rfl : n = 0 := Nat.lt_one_iff.1 hn
      exact hw

namespace Manager

variable {m : Manager σ} {r : Resource} {w w' : World σ} {method : Method} {deleting : Bool}

/-- Whatever a manager does, it heeds the event. -/
theorem invariant_heeds (m : Manager σ) (w : World σ) : m.Invariant fun w' => w.Heeds w' where
  client :=
    { debug := fun h _ _ => h.trans (.of_carries_nil ((World.Carries.refl _).debug _ _) rfl)
      send := fun h q skip => h.trans (m.observer.client.heeds_send q skip _) }
  record {w'} h r exchange transportError :=
    h.trans (.of_carries_nil (m.store.carries_record r exchange transportError (.refl w'))
      (m.store.event_record r exchange transportError w'))

/-- One call: a verb on a resource, or a pass over it. -/
inductive Acts (m : Manager σ) (w : World σ) : World σ → Prop
  | verb (verb : Verb) (r : Resource) : Acts m w (m.perform verb r w).2
  | pass (r : Resource) (deleting : Bool) : Acts m w (m.reconcile r deleting w).2

theorem Invariant.perform {P : World σ → Prop} (h : m.Invariant P) (verb : Verb) (r : Resource)
    (hw : P w) : P (m.perform verb r w).2 := by
  by_cases hverb : verb = .observe
  · subst hverb
    rw [perform_observe]
    exact h.observe r hw
  · rw [m.perform_of_ne hverb]
    exact h.deploy verb.method r hw

theorem heeds_of_acts (h : m.Acts w w') : w.Heeds w' := by
  have hkept := m.invariant_heeds w
  cases h with
  | verb verb r => exact hkept.perform verb r (.refl w)
  | pass r deleting => exact hkept.reconcile r deleting (.refl w)

/-- **Any number of calls heeds the event.** -/
theorem heeds_of_calls (h : Relation.ReflTransGen m.Acts w w') : w.Heeds w' := by
  induction h with
  | refl => exact .refl w
  | tail _ hlast ih => exact ih.trans (heeds_of_acts hlast)

end Manager

/-! ### Replies that set the event -/

namespace World

variable {w v w₁ v₁ : World σ} {q : Request}

/-- The same world with replies that set no event. -/
def uninterrupted (w : World σ) : World σ :=
  { w with arrivals := w.arrivals.map fun a => { a with cancels := false } }

/-- Two worlds with the same requests sent and the same resources saved, which hold the same replies
ready. When the event is set may differ. -/
structure Parallel (w v : World σ) : Prop where
  sent : w.sent = v.sent
  store : w.store = v.store
  saved : w.saved = v.saved
  replies : ∀ n, w.replyAt n = v.replyAt n

theorem parallel_uninterrupted (w : World σ) : w.Parallel w.uninterrupted where
  sent := rfl
  store := rfl
  saved := rfl
  replies n := by
    unfold replyAt uninterrupted
    dsimp only
    rw [List.getD_eq_getElem?_getD, List.getD_eq_getElem?_getD, List.getElem?_map]
    cases w.arrivals[n]? <;> rfl

/-- A request comes to the same in both worlds unless the event stops it in one of them. -/
theorem Parallel.answer_eq (h : w.Parallel v) (hevent : w.event = .set ↔ v.event = .set) :
    w.answer = v.answer := by
  funext q
  unfold answer
  simp only [hevent, h.replies 0]

theorem Parallel.trafficOf_eq (h : w.Parallel v) (hevent : w.event = .set ↔ v.event = .set)
    (r : Resource) (c : Client) (method : Method) :
    r.trafficOf c method w = r.trafficOf c method v := by
  unfold Resource.trafficOf Client.trafficOf
  simp only [hevent, h.replies 0]

theorem Parallel.memory_eq (h : w.Parallel v) : w.memory = v.memory :=
  Prod.ext h.store h.saved

/-- Steps with the same traffic that look the same to the store lead to parallel worlds again. -/
theorem Parallel.coincide {α : Type} {x y : Except Failure α × World σ} {t : Traffic}
    (h : w.Parallel v) (hseen : seen x = seen y) (hx : w.Carries t x.2) (hy : v.Carries t y.2) :
    Coincide World.Parallel x y := by
  obtain ⟨hresult, hmemory⟩ := Prod.ext_iff.1 hseen
  obtain ⟨hstore, hsaved⟩ := Prod.ext_iff.1 hmemory
  refine ⟨hresult, ?_, hstore, hsaved, ?_⟩
  · rw [hx.sent, hy.sent, h.sent]
  · intro n
    rw [replyAt_drop hx.arrivals, replyAt_drop hy.arrivals, h.replies]

end World

namespace Manager

variable {m : Manager σ} {r : Resource} {w v : World σ} {method : Method} {deleting : Bool}

/-- **Observing comes to the same in both worlds**, though its reply may set the event in one of
them. -/
theorem observe_parallel (m : Manager σ) (r : Resource) (h : w.Parallel v)
    (hevent : w.event = .set ↔ v.event = .set) :
    Coincide World.Parallel (m.observe r w) (m.observe r v) := by
  have hseen : seen (m.observe r w) = seen (m.observe r v) := by
    rw [seen_observe, seen_observe, h.answer_eq hevent, h.memory_eq]
  have htraffic : m.observer.traffic r w = m.observer.traffic r v := by
    unfold Observer.traffic
    rw [h.trafficOf_eq hevent]
  have hcarries := m.carries_observe r v
  rw [← htraffic] at hcarries
  exact h.coincide hseen (m.carries_observe r w) hcarries

/-- So does the request of a method. -/
theorem deploy_parallel (m : Manager σ) (method : Method) (r : Resource) (h : w.Parallel v)
    (hevent : w.event = .set ↔ v.event = .set) :
    Coincide World.Parallel (m.deploy method r w) (m.deploy method r v) := by
  have hseen : seen (m.deploy method r w) = seen (m.deploy method r v) := by
    rw [seen_deploy, seen_deploy, h.answer_eq hevent, h.memory_eq]
  have hcarries := m.carries_deploy r v method
  rw [← h.trafficOf_eq hevent] at hcarries
  exact h.coincide hseen (m.carries_deploy r w method) hcarries

/-- So does a pass, if the event is set between its two requests in both worlds or in none. -/
theorem reconcile_parallel (m : Manager σ) (r : Resource) (deleting : Bool) (h : w.Parallel v)
    (hevent : w.event = .set ↔ v.event = .set)
    (hbetween : (m.observe r w).2.event = .set ↔ (m.observe r v).2.event = .set) :
    Coincide World.Parallel (m.reconcile r deleting w) (m.reconcile r deleting v) := by
  obtain ⟨hresult, hparallel⟩ := m.observe_parallel r h hevent
  rw [reconcile_eq, reconcile_eq]
  generalize m.observe r w = x at hresult hparallel hbetween ⊢
  generalize m.observe r v = y at hresult hparallel hbetween ⊢
  obtain ⟨result, w'⟩ := x
  obtain ⟨result', v'⟩ := y
  dsimp only at hresult hparallel hbetween
  subst hresult
  rcases result with e | found
  · exact ⟨rfl, hparallel⟩
  -- the finding is the same, so it selects the same request
  dsimp only
  cases found.action deleting with
  | none => exact ⟨rfl, hparallel⟩
  | some method =>
    obtain ⟨hresult, hdone⟩ := m.deploy_parallel method found.resource hparallel hbetween
    dsimp only
    generalize m.deploy method found.resource w' = x at hresult hdone ⊢
    generalize m.deploy method found.resource v' = y at hresult hdone ⊢
    obtain ⟨result, w''⟩ := x
    obtain ⟨result', v''⟩ := y
    dsimp only at hresult
    subst hresult
    cases result <;> exact ⟨rfl, hdone⟩

end Manager

/-- Replies that set no event leave it as it is. -/
theorem World.eventAfter_uninterrupted (w : World σ) (n : Nat) :
    w.uninterrupted.eventAfter n = w.event := by
  induction n with
  | zero => rfl
  | succ n ih =>
    have hnever : (w.uninterrupted.arrivals.getD n exhausted).cancels = false := by
      unfold uninterrupted
      rw [List.getD_eq_getElem?_getD, List.getElem?_map]
      cases w.arrivals[n]? <;> rfl
    rw [eventAfter, hnever, if_neg (by simp), ih]

namespace Manager

variable {m : Manager σ} {r : Resource} {w : World σ} {method : Method} {deleting : Bool}

/-- The same without interruption, unless the event is set when the observation is over. -/
theorem reconcile_uninterrupted (h : (m.observe r w).2.event ≠ .set) :
    Coincide World.Parallel (m.reconcile r deleting w)
      (m.reconcile r deleting w.uninterrupted) := by
  have hw : w.event ≠ .set := fun hset => h (event_observe hset)
  have hheeds := (m.invariant_heeds w.uninterrupted).observe r (.refl _)
  have hbetween : (m.observe r w.uninterrupted).2.event ≠ .set := by
    rw [hheeds.event, w.eventAfter_uninterrupted]
    exact hw
  exact m.reconcile_parallel r deleting w.parallel_uninterrupted .rfl (iff_of_false h hbetween)

/-- What the request of a method comes to when the event is set. -/
theorem deploy_of_set (m : Manager σ) (method : Method) (r : Resource) (hw : w.event = .set) :
    m.deploy method r w =
      match r.resolve method with
      | .error e => (.error e, w)
      | .ok q =>
        (.error (.notSent (method.name ++ " " ++ q.url ++ ": request cancelled")),
          (w.debug Resource.resolutionLogger (r.resolutionMessage method)).debug logger
            (method.name ++ " " ++ q.url ++ " for " ++ r.name)) := by
  unfold deploy Resource.resolveLogged
  cases r.resolve method with
  | error e => rfl
  | ok q =>
    dsimp only
    generalize hw₁ : (w.debug Resource.resolutionLogger (r.resolutionMessage method)).debug
      logger (method.name ++ " " ++ q.url ++ " for " ++ r.name) = w₁
    have hset : w₁.event = .set := by
      subst hw₁
      exact hw
    unfold Client.send
    rw [if_pos hset]
    rfl

/-- A verb that meets the event set does not send its request: the request does not resolve, or it
counts as not sent. Nothing is saved, and the store is not asked. -/
structure Refuses (m : Manager σ) (verb : Verb) (r : Resource) (w : World σ) : Prop where
  result : (∃ e, r.resolve verb.method = .error e ∧ (m.perform verb r w).1 = .error e) ∨
    ∃ q, r.resolve verb.method = .ok q ∧ (m.perform verb r w).1 =
      .error (.notSent (verb.method.name ++ " " ++ q.url ++ ": request cancelled"))
  sent : (m.perform verb r w).2.sent = w.sent
  unsaved : (m.perform verb r w).2.memory = w.memory
  /-- With any other store it comes to the same. -/
  unasked : ∀ store : Store σ, perform { m with store := store } verb r w = m.perform verb r w

theorem refuses_of_set {verb : Verb} (hverb : verb ≠ .observe) (hw : w.event = .set) :
    m.Refuses verb r w := by
  have hperform : ∀ m : Manager σ, m.perform verb r w = m.deploy verb.method r w := fun m => by
    rw [m.perform_of_ne hverb]
  have hdeploy := fun m : Manager σ => (hperform m).trans (m.deploy_of_set verb.method r hw)
  refine ⟨?_, ?_, ?_, fun store => (hdeploy _).trans (hdeploy m).symm⟩
  all_goals
    rw [hdeploy m]
    cases hq : r.resolve verb.method with
    | error e => simp [World.memory]
    | ok q => simp [World.memory, World.debug, World.logged]

/-- What the event does to a pass. If it is unset when the observation is over, the pass comes to
the same as without interruption; if it is set then, nothing is sent or saved any more. -/
structure PassHeeds (m : Manager σ) (r : Resource) (deleting : Bool) (w : World σ) : Prop where
  unset : (m.observe r w).2.event ≠ .set →
    Coincide World.Parallel (m.reconcile r deleting w) (m.reconcile r deleting w.uninterrupted)
  set : (m.observe r w).2.event = .set →
    (m.reconcile r deleting w).2.sent = (m.observe r w).2.sent ∧
      (m.reconcile r deleting w).2.memory = (m.observe r w).2.memory

theorem passHeeds (m : Manager σ) (r : Resource) (deleting : Bool) (w : World σ) :
    m.PassHeeds r deleting w where
  unset := reconcile_uninterrupted
  set hset := by
    rw [reconcile_eq]
    generalize m.observe r w = seen at hset ⊢
    obtain ⟨result, w'⟩ := seen
    rcases result with e | found
    · exact ⟨rfl, rfl⟩
    dsimp only at hset ⊢
    cases found.action deleting with
    | none => exact ⟨rfl, rfl⟩
    | some method =>
      dsimp only
      rw [m.deploy_of_set method found.resource hset]
      cases found.resource.resolve method <;> exact ⟨rfl, rfl⟩

/-- **Cancellation stops the traffic and nothing else.** Over any number of calls, each request is
sent while the event is not set. What one verb comes to, saves and sends does not depend on whether
its reply sets the event, nor does a pass but for the request that the event stops. A verb that
sends a request and meets the event set saves nothing. -/
theorem heeds_cancellation (m : Manager σ) (r : Resource) (w : World σ) :
    (∀ w', Relation.ReflTransGen m.Acts w w' → w.Heeds w') ∧
      (∀ verb, Coincide World.Parallel (m.perform verb r w) (m.perform verb r w.uninterrupted)) ∧
      (∀ deleting, m.PassHeeds r deleting w) ∧
      (w.event = .set → ∀ verb, verb ≠ .observe → m.Refuses verb r w) := by
  refine ⟨fun w' => heeds_of_calls, fun verb => ?_, fun deleting => m.passHeeds r deleting w,
    fun hw verb hverb => refuses_of_set hverb hw⟩
  by_cases hverb : verb = .observe
  · subst hverb
    obtain ⟨hresult, hparallel⟩ := m.observe_parallel r w.parallel_uninterrupted .rfl
    rw [perform_observe, perform_observe, hresult]
    exact ⟨rfl, hparallel⟩
  · rw [m.perform_of_ne hverb]
    exact m.deploy_parallel verb.method r w.parallel_uninterrupted .rfl

/-- A pass of deleting whose GET request is answered while the event becomes set. -/
def interruptedDeletion : Pass Nat where
  resource := .page (.ofPage .get 200 "x")
  world := ⟨[⟨.response 200 "y" [], true⟩, ⟨.response 200 [] [], false⟩], .unset, [], 0, [], []⟩

/-- The law at this pass: the GET request is sent and recorded, the DELETE request is not sent. -/
theorem deletion_interrupted :
    interruptedDeletion.world.Heeds
        (accepting.reconcile interruptedDeletion.resource true interruptedDeletion.world).2 ∧
      (accepting.reconcile interruptedDeletion.resource true interruptedDeletion.world).1 =
        .error (.notSent "DELETE u: request cancelled") ∧
      (accepting.reconcile interruptedDeletion.resource true interruptedDeletion.world).2.sent =
        [.ofPage .get] ∧
      (accepting.reconcile interruptedDeletion.resource true interruptedDeletion.world).2.saved =
        [.page (.ofPage .get 200 "y")] := by
  obtain ⟨hheeds, -, hpass, -⟩ := heeds_cancellation accepting interruptedDeletion.resource
    interruptedDeletion.world
  have hset : (accepting.observe interruptedDeletion.resource interruptedDeletion.world).2.event =
      .set := by cbv
  have hget : (accepting.observe interruptedDeletion.resource interruptedDeletion.world).2.sent =
      [.ofPage .get] := by cbv
  have hsaved : (accepting.observe interruptedDeletion.resource interruptedDeletion.world).2.saved =
      [.page (.ofPage .get 200 "y")] := by cbv
  obtain ⟨hsent, hmemory⟩ := (hpass true).set hset
  refine ⟨hheeds _ (.single (.pass _ true)), by cbv, hsent.trans hget, ?_⟩
  exact (congrArg Prod.snd hmemory).trans hsaved

end Manager

end DesiredState
