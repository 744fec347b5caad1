import DesiredState.Proofs.Lifecycle.Run

/-!
# Calls of the four verbs

A manager is called through four verbs, in any order, and whoever calls it keeps the resource that
the last call gave. All four are seen here as one: a request that may be made, what it comes to,
and the resource that is left.

* `Call`, `Manager.result`, `Manager.left`: a call, its result and the resource after it.
* `Call.Asks`, `Call.ComesTo`: the request of a call, and its answer.
* `Manager.callTraffic_answered_iff`: the traffic of a call is its request.
* `Manager.gives_of_result`: **all that a call can give.**
* `Manager.recorded_of_comesTo`: what a call records.
-/

namespace DesiredState

variable {σ : Type}

/-- The verbs that act on one resource. -/
inductive Verb
  | observe
  | create
  | update
  | delete
  deriving DecidableEq

/-- The method of the request that a verb makes. -/
def Verb.method : Verb → Method
  | .observe => .get
  | .create => .post
  | .update => .put
  | .delete => .delete

theorem Verb.method_ne_post {verb : Verb} (h : verb ≠ .create) : verb.method ≠ .post := by
  cases verb with
  | create => exact absurd rfl h
  | observe | update | delete => exact nofun

/-- A call of a verb: the resource that it is made on, and the world that it meets. -/
structure Call (σ : Type) where
  verb : Verb
  resource : Resource
  world : World σ

/-- The request that a call makes; observing makes one only if something is recorded. -/
def Call.Asks (c : Call σ) (q : Request) : Prop :=
  (c.verb = .observe → ¬ c.resource.NothingRecorded) ∧
    ∃ resolved, c.resource.resolve c.verb.method = .ok resolved ∧
      q = resolved.toRequest c.verb.method

theorem Call.Asks.method {c : Call σ} {q : Request} (h : c.Asks q) :
    q.method = c.verb.method.name := by
  obtain ⟨-, resolved, -, rfl⟩ := h
  rfl

/-- The request of a call is made and comes to this answer. -/
def Call.ComesTo (c : Call σ) (q : Request) (answer : Except Failure Response) : Prop :=
  c.Asks q ∧ c.world.answer q = answer

/-- A call makes one request at most, which comes to one answer. -/
theorem Call.ComesTo.eq {c : Call σ} {q q' : Request} {a a' : Except Failure Response}
    (h : c.ComesTo q a) (h' : c.ComesTo q' a') : q = q' ∧ a = a' := by
  obtain ⟨⟨-, resolved, hresolved, rfl⟩, rfl⟩ := h
  obtain ⟨⟨-, resolved', hresolved', rfl⟩, rfl⟩ := h'
  rw [hresolved] at hresolved'
  cases hresolved'
  exact ⟨rfl, rfl⟩

namespace Manager

variable (m : Manager σ) (c : Call σ)

/-- The resource that a verb gives. -/
def perform (m : Manager σ) (verb : Verb) (r : Resource) : Step σ Resource :=
  match verb with
  | .observe => fun w =>
    match m.observe r w with
    | (.ok found, w) => (.ok found.resource, w)
    | (.error e, w) => (.error e, w)
  | .create => m.create r
  | .update => m.update r
  | .delete => m.delete r

/-- The result of a call, with the world after it. -/
def result : Except Failure Resource × World σ := m.perform c.verb c.resource c.world

/-- What a call found, if it observed and returned. -/
def found? : Option Finding :=
  match c.verb with
  | .observe => (m.observe c.resource c.world).1.toOption
  | _ => none

/-- The call observed and found the object up to date. -/
def Syncs : Prop := ∃ found ∈ m.found? c, found.upToDate = true

/-- The call observed and found no object. -/
def ReportsAbsence : Prop := ∃ found ∈ m.found? c, found.present = false

/-- The resource that is current after a call: what it returned, or the same as before if it
failed. -/
def left : Resource :=
  match (m.result c).1 with
  | .ok r => r
  | .error _ => c.resource

/-- What a call sent, with the reply. -/
def callTraffic : Traffic := c.world.traffic (m.result c).2

/-- Observing gives the resource of its finding. -/
theorem perform_observe (r : Resource) (w : World σ) :
    m.perform .observe r w = ((m.observe r w).1.map Finding.resource, (m.observe r w).2) := by
  unfold perform
  dsimp only
  generalize m.observe r w = seen
  obtain ⟨result, w'⟩ := seen
  cases result <;> rfl

/-- The other verbs make the request of their method. -/
theorem perform_of_ne {verb : Verb} (h : verb ≠ .observe) :
    m.perform verb = m.deploy verb.method := by
  cases verb with
  | observe => exact absurd rfl h
  | create | update | delete => rfl

variable {m c} in
theorem found?_eq_some_iff {found : Finding} :
    m.found? c = some found ↔
      c.verb = .observe ∧ (m.observe c.resource c.world).1 = .ok found := by
  unfold found?
  split
  · next hverb =>
    rw [hverb]
    cases (m.observe c.resource c.world).1 <;> simp [Except.toOption]
  · next hverb => exact iff_of_false nofun fun h => hverb h.1

theorem callTraffic_eq :
    m.callTraffic c = if c.verb = .observe ∧ c.resource.NothingRecorded then []
      else c.resource.trafficOf m.observer.client c.verb.method c.world := by
  obtain ⟨verb, r, w⟩ := c
  unfold callTraffic result
  by_cases h : verb = .observe
  · subst h
    rw [perform_observe]
    simp only [true_and]
    exact (m.carries_observe r w).traffic_eq
  · rw [if_neg fun h' => h h'.1, m.perform_of_ne h]
    exact (m.carries_deploy r w verb.method).traffic_eq

/-- **The traffic of a call is its request**: it is answered if and only if the request is made and
comes to a response. -/
theorem callTraffic_answered_iff {status : Int} {body : Text} :
    (m.callTraffic c).Answered c.verb.method status body ↔
      ∃ q response, c.ComesTo q (.ok response) ∧ response.status = status ∧
        response.body = body := by
  rw [callTraffic_eq]
  by_cases h : c.verb = .observe ∧ c.resource.NothingRecorded
  · rw [if_pos h]
    refine iff_of_false Traffic.not_answered_nil ?_
    rintro ⟨q, response, ⟨⟨hgate, -⟩, -⟩, -⟩
    exact hgate h.1 h.2
  · rw [if_neg h, Resource.trafficOf_answered_iff]
    constructor
    · rintro ⟨-, resolved, response, hresolved, hanswer, hstatus, hbody⟩
      exact ⟨_, response, ⟨⟨not_and.1 h, resolved, hresolved, rfl⟩, hanswer⟩, hstatus, hbody⟩
    · rintro ⟨q, response, ⟨⟨-, resolved, hresolved, rfl⟩, hanswer⟩, hstatus, hbody⟩
      exact ⟨rfl, resolved, response, hresolved, hanswer, hstatus, hbody⟩

/-- What a call that returns has come to, with the resource that it gives. -/
inductive Gives (m : Manager σ) (c : Call σ) : Resource → Prop
  | absence : m.ReportsAbsence c → ¬ m.Syncs c →
    (∀ q answer, c.ComesTo q answer →
      ∃ response, answer = .ok response ∧ response.status = StatusCode.notFound) →
    Gives m c c.resource
  | exchange {q : Request} {response : Response} : ¬ m.ReportsAbsence c → ¬ m.Syncs c →
    c.ComesTo q (.ok response) → (c.verb = .observe → response.status ≠ StatusCode.notFound) →
    Gives m c (c.resource.withStatus (c.resource.status.after ⟨q, response⟩ none))
  | sync {q : Request} {response : Response} : ¬ m.ReportsAbsence c → m.Syncs c →
    c.ComesTo q (.ok response) → StatusCode.isSuccess response.status = true →
    Gives m c (c.resource.resetFailures.withStatus
      (c.resource.resetFailures.status.after ⟨q, response⟩ none))
  | failure {q : Request} {message : Text} : ¬ m.ReportsAbsence c → ¬ m.Syncs c →
    c.verb = .observe → c.ComesTo q (.error (.transport message)) →
    Gives m c (c.resource.withStatus (c.resource.status.after ⟨q, .empty⟩ (some message)))

variable {m c}

/-- What observing gives, by its decision. -/
theorem gives_of_found {found : Finding} (hverb : c.verb = .observe)
    (h : (m.observe c.resource c.world).1 = .ok found) : m.Gives c found.resource := by
  have hfound := found?_eq_some_iff.2 ⟨hverb, h⟩
  have hpresent : m.ReportsAbsence c ↔ found.present = false := by
    simp [ReportsAbsence, hfound]
  have hsync : m.Syncs c ↔ found.upToDate = true := by
    simp [Syncs, hfound]
  rcases finding_cases h with ⟨hd, rfl⟩ | ⟨o, ho, rfl⟩
  · -- the gate or a 404: whatever was asked, no other answer ends so
    refine .absence (hpresent.2 rfl) (mt hsync.1 nofun) ?_
    rintro q answer ⟨⟨hgate, get, hget, rfl⟩, rfl⟩
    rw [hverb] at hget ⊢
    change c.resource.resolve .get = .ok get at hget
    rcases (Resource.decision_eq_objectNotFound_iff c.world.answer_ne_objectNotFound).1 hd with
      hr | ⟨get', response, hget', hanswer, h404⟩
    · exact absurd hr (hgate hverb)
    · rw [hget] at hget'
      cases hget'
      exact ⟨response, hanswer, h404⟩
  · obtain ⟨hr, get, exchange, transportError, hget, hleaves, hjudged⟩ :=
      Resource.decision_eq_ok_iff.1 ho
    have hasks : c.Asks (get.toRequest .get) := by
      refine ⟨fun _ => hr, get, ?_, ?_⟩ <;> rw [hverb]
      · exact hget
      · rfl
    obtain ⟨hexchange, herror, hsuccess⟩ := Resource.judged_ok hjudged
    obtain ⟨synced, exchange', transportError'⟩ := o
    dsimp only at hexchange herror hsuccess
    subst hexchange herror
    have hthere : ¬ m.ReportsAbsence c := mt hpresent.1 nofun
    -- in sync takes a status of success, which the empty response of a failed transport has not
    cases hleaves with
    | response hanswer h404 =>
      cases synced with
      | false => exact .exchange hthere (mt hsync.1 nofun) ⟨hasks, hanswer⟩ fun _ => h404
      | true => exact .sync hthere (hsync.2 rfl) ⟨hasks, hanswer⟩ (hsuccess rfl)
    | failure hanswer =>
      cases synced with
      | false => exact .failure hthere (mt hsync.1 nofun) hverb ⟨hasks, hanswer⟩
      | true => cases hsuccess rfl

/-- **All that a call can give.** -/
theorem gives_of_result {r : Resource} (h : (m.result c).1 = .ok r) : m.Gives c r := by
  unfold result at h
  by_cases hverb : c.verb = .observe
  · rw [hverb, perform_observe] at h
    cases hobserve : (m.observe c.resource c.world).1 with
    | error e =>
      rw [hobserve] at h
      cases h
    | ok found =>
      rw [hobserve] at h
      cases h
      exact gives_of_found hverb hobserve
  · have hthere : ¬ m.ReportsAbsence c := fun ⟨_, h, _⟩ => hverb (found?_eq_some_iff.1 h).1
    have hsync : ¬ m.Syncs c := fun ⟨_, h, _⟩ => hverb (found?_eq_some_iff.1 h).1
    rw [m.perform_of_ne hverb] at h
    rcases m.deploy_cases c.resource c.world c.verb.method with
      ⟨q, response, hq, hanswer, hresult⟩ | ⟨e, hresult⟩
    · rw [hresult] at h
      cases h
      exact .exchange hthere hsync ⟨⟨fun h => absurd h hverb, q, hq, rfl⟩, hanswer⟩
        fun h => absurd h hverb
    · rw [hresult] at h
      cases h

/-- **A call that comes to a response records it**, and keeps what is declared. -/
theorem recorded_of_comesTo {r : Resource} {q : Request} {response : Response}
    (h : (m.result c).1 = .ok r) (hcomes : c.ComesTo q (.ok response))
    (h404 : c.verb = .observe → response.status ≠ StatusCode.notFound) :
    r.spec = c.resource.spec ∧ r.status.request = q ∧ r.status.response = response := by
  cases gives_of_result h with
  | absence habsence _ hnone =>
    obtain ⟨found, hfound, -⟩ := habsence
    obtain ⟨_, ⟨⟩, hstatus⟩ := hnone q _ hcomes
    exact absurd hstatus (h404 (found?_eq_some_iff.1 hfound).1)
  | exchange _ _ hcomes' | sync _ _ hcomes' =>
    obtain ⟨rfl, ⟨⟩⟩ := hcomes.eq hcomes'
    exact ⟨rfl, Status.after_none_request _ _, Status.after_none_response _ _⟩
  | failure _ _ _ hcomes' =>
    obtain ⟨-, ⟨⟩⟩ := hcomes.eq hcomes'

/-- A call that fails has found nothing. -/
theorem not_syncs_of_error {e : Failure} (h : (m.result c).1 = .error e) : ¬ m.Syncs c := by
  rintro ⟨found, hfound, -⟩
  obtain ⟨hverb, hobserve⟩ := found?_eq_some_iff.1 hfound
  unfold result at h
  rw [hverb, perform_observe, hobserve] at h
  cases h

end Manager

end DesiredState
