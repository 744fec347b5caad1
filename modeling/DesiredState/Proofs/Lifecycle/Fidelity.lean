import DesiredState.Proofs.Lifecycle.Calls
import DesiredState.Proofs.Lifecycle.Requests
import DesiredState.Proofs.Lifecycle.Saves

/-!
# What is sent and what is recorded

A request is copied on its way from the templates to the wire, and once more into the status that is
saved. Both copies are compared here with the request as it is resolved, field by field, and the
recorded response with the reply on the wire. A pass makes two such steps, the second one on the
resource that the first one gave.

* `Sent.Conveys`: a request on the wire is the request of a method.
* `Resource.Reflects`: a status records the exchange on the wire, or keeps what it had.
* `Manager.Transacts`: what one verb sends and saves.
* `Manager.transacts`: **every verb sends what is resolved and records what was exchanged, and so
  does each of the two halves of a pass.**
-/

namespace DesiredState

variable {σ : Type}

/-- The request on the wire is the resolved request `q` of a method on a resource: an empty body is
no data, the values of a header are joined, the limits of time are those of the client, and
certificates are not verified exactly if the client or the resource says so. -/
structure Sent.Conveys (s : Sent) (c : Client) (r : Resource) (method : Method)
    (q : ResolvedRequest) : Prop where
  resolved : r.resolve method = .ok q
  method : s.method = method.name
  url : s.url = q.url
  body : s.data.getD [] = q.body
  noData : s.data = none ↔ q.body = []
  headers : s.headers = q.headers.map fun h => (h.1, Text.joinWith ", " h.2)
  unverified : s.verify = false ↔ c.insecure = true ∨ r.spec.skipTlsVerify = true
  connectTimeout : s.connectTimeout = c.connectTimeout
  timeout : s.timeout = c.timeout

/-- A response is the reply on the wire. Its headers are a table, which has the headers of the reply
one by one if no name is repeated. -/
structure Response.Repeats (response : Response) (status : Int) (body : Text)
    (headers : List (Text × Text)) : Prop where
  status : response.status = status
  body : response.body = body
  table : response.headers = Entries.ofPairs (headers.map fun h => (h.1, [h.2]))
  headers : (headers.map Prod.fst).Nodup → response.headers = headers.map fun h => (h.1, [h.2])

theorem Response.repeats_received (status : Int) (body : Text) (headers : List (Text × Text)) :
    (Response.received status body headers).Repeats status body headers where
  status := rfl
  body := rfl
  table := rfl
  headers hnodup := by
    have hkeys : (Entries.keys (headers.map fun h => (h.1, [h.2]))).Nodup := by
      rw [Entries.keys, List.map_map]
      exact hnodup
    exact Entries.ofPairs_of_nodup hkeys

/-- No request of the traffic was answered with a response. -/
def Traffic.IsUnanswered (t : Traffic) : Prop :=
  ∀ x ∈ t, ∀ status body headers, x.2 ≠ .response status body headers

/-- What a resource records of the request of a method, given the traffic: the request as it was
resolved with the response as it came, or, without a response, the exchange that was recorded
before. -/
inductive Resource.Reflects (r : Resource) (method : Method) (t : Traffic) (r' : Resource) : Prop
  | exchange {q : ResolvedRequest} {s : Sent} {status : Int} {body : Text}
      {headers : List (Text × Text)} :
    r.resolve method = .ok q → t = [(s, .response status body headers)] →
    r'.status.request = ⟨method.name, q.url, q.body, q.headers⟩ →
    r'.status.response.Repeats status body headers → Reflects r method t r'
  | failure : t.IsUnanswered → r'.status.request = r.status.request →
    r'.status.response = r.status.response → Reflects r method t r'

/-! ### On the wire -/

namespace Client

variable {c : Client} {r : Resource} {method : Method} {q : ResolvedRequest} {w : World σ}
  {x : Sent × Reply}

/-- A resolved request is handed over as it is. -/
theorem conveys_wireForm (hq : r.resolve method = .ok q) :
    (c.wireForm (q.toRequest method) r.spec.skipTlsVerify).Conveys c r method q where
  resolved := hq
  method := rfl
  url := rfl
  body := by
    unfold wireForm ResolvedRequest.toRequest
    cases q.body <;> rfl
  noData := by
    unfold wireForm ResolvedRequest.toRequest
    cases q.body with
    | nil => exact iff_of_true rfl rfl
    | cons => exact iff_of_false nofun nofun
  headers := rfl
  unverified := by
    unfold wireForm
    dsimp only
    rw [Bool.not_eq_false', Bool.or_eq_true, or_comm]
  connectTimeout := rfl
  timeout := rfl

end Client

namespace Resource

variable {c : Client} {r : Resource} {method : Method} {q : ResolvedRequest} {w : World σ}
  {x : Sent × Reply} {response : Response} {message : Text}

theorem conveys_of_mem_trafficOf (h : x ∈ r.trafficOf c method w) :
    ∃ q, x.1.Conveys c r method q := by
  unfold trafficOf at h
  cases hq : r.resolve method with
  | error e =>
    rw [hq] at h
    cases h
  | ok q =>
    rw [hq] at h
    dsimp only at h
    unfold Client.trafficOf at h
    split at h
    · cases h
    · rw [List.mem_singleton] at h
      subst h
      exact ⟨q, Client.conveys_wireForm hq⟩

/-- A request that comes to a response is the whole traffic, with the reply that this response
repeats. -/
theorem trafficOf_of_answer (hq : r.resolve method = .ok q)
    (hanswer : w.answer (q.toRequest method) = .ok response) :
    ∃ s status body headers, r.trafficOf c method w = [(s, .response status body headers)] ∧
      response.Repeats status body headers := by
  have hw : w.event ≠ .set := World.event_ne_set_of_answer hanswer
  unfold World.answer at hanswer
  rw [if_neg hw] at hanswer
  unfold trafficOf Client.trafficOf
  rw [hq]
  dsimp only
  cases hf : Text.utf8Fault? (q.toRequest method).body with
  | some fault =>
    simp only [hf] at hanswer
    cases hanswer
  | none =>
    simp only [hf] at hanswer
    rw [if_neg (by simp [hw])]
    cases hreply : w.replyAt 0 with
    | response status body headers =>
      rw [hreply] at hanswer
      cases hanswer
      exact ⟨_, status, body, headers, rfl, Response.repeats_received status body headers⟩
    | failed | broken | interrupted =>
      rw [hreply] at hanswer
      cases hanswer

/-- A request that comes to an error has no response. -/
theorem isUnanswered_trafficOf {e : Failure} (hq : r.resolve method = .ok q)
    (hanswer : w.answer (q.toRequest method) = .error e) :
    (r.trafficOf c method w).IsUnanswered := by
  rintro x hx status body headers hreply
  have hname : x.1.method = method.name := by
    obtain ⟨q', hconveys⟩ := conveys_of_mem_trafficOf hx
    exact hconveys.method
  obtain ⟨-, q', response, hq', hanswer', -⟩ :=
    trafficOf_answered_iff.1 ⟨x, hx, hname, headers, hreply⟩
  rw [hq] at hq'
  cases hq'
  rw [hanswer] at hanswer'
  cases hanswer'

end Resource

/-! ### One verb -/

namespace Manager

variable {m : Manager σ} {c : Call σ} {q : Request} {r' : Resource}

theorem result_observe (m : Manager σ) (r : Resource) (w : World σ) :
    m.result ⟨.observe, r, w⟩ =
      ((m.observe r w).1.map Finding.resource, (m.observe r w).2) :=
  m.perform_observe r w

theorem result_of_ne {verb : Verb} (m : Manager σ) (r : Resource) (w : World σ)
    (h : verb ≠ .observe) : m.result ⟨verb, r, w⟩ = m.deploy verb.method r w := by
  unfold result
  dsimp only
  rw [m.perform_of_ne h]

/-- A call that makes its request has the traffic of this request. -/
theorem callTraffic_of_asks (h : c.Asks q) :
    m.callTraffic c = c.resource.trafficOf m.observer.client c.verb.method c.world := by
  rw [callTraffic_eq, if_neg]
  rintro ⟨hverb, hr⟩
  exact h.1 hverb hr

/-- What a call sent is its traffic. -/
theorem carries_result (m : Manager σ) (c : Call σ) :
    c.world.Carries (m.callTraffic c) (m.result c).2 := by
  obtain ⟨verb, r, w⟩ := c
  by_cases hverb : verb = .observe
  · subst hverb
    have hcarries := m.carries_observe r w
    unfold callTraffic
    rw [result_observe, hcarries.traffic_eq]
    exact hcarries
  · have hcarries := m.carries_deploy r w verb.method
    unfold callTraffic
    rw [m.result_of_ne r w hverb, hcarries.traffic_eq]
    exact hcarries

/-- What a call sends is the request of its method. -/
theorem conveys_of_mem_callTraffic {x : Sent × Reply} (h : x ∈ m.callTraffic c) :
    ∃ q, x.1.Conveys m.observer.client c.resource c.verb.method q := by
  rw [callTraffic_eq] at h
  split at h
  · cases h
  · exact Resource.conveys_of_mem_trafficOf h

/-- A call that comes to a response leaves a resource that records it, however the rest of the
status is made. -/
theorem reflects_of_response {response : Response} (hcomes : c.ComesTo q (.ok response))
    (hrequest : r'.status.request = q) (hresponse : r'.status.response = response) :
    c.resource.Reflects c.verb.method (m.callTraffic c) r' := by
  obtain ⟨hasks, hanswer⟩ := hcomes
  rw [callTraffic_of_asks hasks]
  obtain ⟨-, resolved, hresolved, rfl⟩ := hasks
  obtain ⟨s, status, body, headers, htraffic, hrepeats⟩ :=
    Resource.trafficOf_of_answer hresolved hanswer
  refine .exchange hresolved htraffic hrequest ?_
  rw [hresponse]
  exact hrepeats

/-- **What a call gives records its exchange**, unless it reports absence. -/
theorem reflects_of_gives (h : m.Gives c r') (hthere : ¬ m.ReportsAbsence c) :
    c.resource.Reflects c.verb.method (m.callTraffic c) r' := by
  cases h with
  | absence habsence => exact absurd habsence hthere
  | exchange _ _ hcomes _ =>
    exact reflects_of_response hcomes (Status.after_none_request _ _)
      (Status.after_none_response _ _)
  | sync _ _ hcomes _ =>
    exact reflects_of_response hcomes (Status.after_none_request _ _)
      (Status.after_none_response _ _)
  | failure _ _ _ hcomes =>
    -- the record of an error of the transport keeps the exchange that stood there
    obtain ⟨hasks, hanswer⟩ := hcomes
    rw [callTraffic_of_asks hasks]
    obtain ⟨-, resolved, hresolved, rfl⟩ := hasks
    exact .failure (Resource.isUnanswered_trafficOf hresolved hanswer) rfl rfl

/-- A call saves the resource that it leaves, which is then one that it gives, or it saves nothing
and leaves the resource as it was. -/
def KeepsLeft (m : Manager σ) (c : Call σ) : Prop :=
  ∃ saves, m.store.Keeps c.world saves (m.result c).2 ∧
    (saves = [] ∧ m.left c = c.resource ∨
      saves = [m.left c] ∧ m.Gives c (m.left c) ∧ ¬ m.ReportsAbsence c)

/-- Only an observation that finds nothing reports absence. -/
theorem not_reportsAbsence_of_found {r : Resource} {w : World σ} {found : Finding}
    (hfound : (m.observe r w).1 = .ok found) (hpresent : found.present = true) :
    ¬ m.ReportsAbsence ⟨.observe, r, w⟩ := by
  rintro ⟨found', hfound', habsent⟩
  rw [Option.mem_def, found?_eq_some_iff] at hfound'
  rw [hfound] at hfound'
  cases hfound'.2
  rw [hpresent] at habsent
  cases habsent

theorem keepsLeft_observe (m : Manager σ) (r : Resource) (w : World σ) :
    m.KeepsLeft ⟨.observe, r, w⟩ := by
  have hsaves := m.savesFound r w
  unfold SavesFound at hsaves
  unfold KeepsLeft left
  rw [result_observe]
  cases hobserve : m.observe r w with
  | mk result w' =>
    rw [hobserve] at hsaves
    rcases result with e | found
    · exact ⟨[], hsaves, .inl ⟨rfl, rfl⟩⟩
    have hfound : (m.observe r w).1 = .ok found := by rw [hobserve]
    dsimp only at hsaves
    cases hpresent : found.present with
    | true =>
      rw [hpresent] at hsaves
      have hgives : m.Gives ⟨.observe, r, w⟩ found.resource := gives_of_found rfl hfound
      have hthere := not_reportsAbsence_of_found hfound hpresent
      exact ⟨[found.resource], hsaves.1, .inr ⟨rfl, hgives, hthere⟩⟩
    | false =>
      rw [hpresent] at hsaves
      exact ⟨[], hsaves.1, .inl ⟨rfl, hsaves.2⟩⟩

theorem keepsLeft_of_ne {verb : Verb} (m : Manager σ) (r : Resource) (w : World σ)
    (hverb : verb ≠ .observe) : m.KeepsLeft ⟨verb, r, w⟩ := by
  have hsaves := m.savesReturned r w verb.method
  unfold SavesReturned at hsaves
  have hresult := m.result_of_ne r w hverb
  have hgives : ∀ r', (m.deploy verb.method r w).1 = .ok r' → m.Gives ⟨verb, r, w⟩ r' :=
    fun r' h => gives_of_result (hresult ▸ h)
  have hthere : ¬ m.ReportsAbsence ⟨verb, r, w⟩ := by
    rintro ⟨found, hfound, -⟩
    exact hverb (found?_eq_some_iff.1 hfound).1
  unfold KeepsLeft left
  rw [hresult]
  cases hdeploy : m.deploy verb.method r w with
  | mk result w' =>
    rw [hdeploy] at hsaves hgives
    rcases result with e | r'
    · exact ⟨[], hsaves, .inl ⟨rfl, rfl⟩⟩
    · exact ⟨[r'], hsaves.1, .inr ⟨rfl, hgives r' rfl, hthere⟩⟩

theorem keepsLeft (m : Manager σ) (c : Call σ) : m.KeepsLeft c := by
  obtain ⟨verb, r, w⟩ := c
  by_cases hverb : verb = .observe
  · subst hverb
    exact m.keepsLeft_observe r w
  · exact m.keepsLeft_of_ne r w hverb

/-- From one world to another, the request of a method on the resource `r` was sent as it is
resolved, if it was sent at all, and what was saved records the exchange; it is the resource `r'`
that is left then. -/
structure Transacts (m : Manager σ) (method : Method) (r : Resource) (w : World σ) (r' : Resource)
    (w' : World σ) : Prop where
  /-- The traffic has all that was handed over in between, with the replies in order. -/
  carried : w.Carries (w.traffic w') w'
  sent : ∀ x ∈ w.traffic w', ∃ q, x.1.Conveys m.observer.client r method q
  saved : ∃ saves, m.store.Keeps w saves w' ∧ (saves = [] ∧ r' = r ∨ saves = [r']) ∧
    ∀ x ∈ saves, r.Reflects method (w.traffic w') x

/-- A call transacts the request of its method. -/
theorem transacts_call (m : Manager σ) (c : Call σ) :
    m.Transacts c.verb.method c.resource c.world (m.left c) (m.result c).2 where
  carried := m.carries_result c
  sent _ hx := conveys_of_mem_callTraffic hx
  saved := by
    obtain ⟨saves, hkeeps, hsaves⟩ := m.keepsLeft c
    rcases hsaves with ⟨rfl, hleft⟩ | ⟨rfl, hgives, hthere⟩
    · exact ⟨[], hkeeps, .inl ⟨rfl, hleft⟩, List.forall_mem_nil _⟩
    · refine ⟨_, hkeeps, .inr rfl, List.forall_mem_singleton.2 ?_⟩
      exact reflects_of_gives hgives hthere

/-! ### A pass -/

section Pass

variable {m : Manager σ} {r : Resource} {w : World σ} {deleting : Bool} {found : Finding}
  {method : Method}

/-- Every method but GET is that of a verb which makes its request at once. -/
theorem exists_verb (h : method ≠ .get) :
    ∃ verb : Verb, verb ≠ .observe ∧ verb.method = method := by
  cases method with
  | get => exact absurd rfl h
  | post => exact ⟨.create, nofun, rfl⟩
  | put => exact ⟨.update, nofun, rfl⟩
  | delete => exact ⟨.delete, nofun, rfl⟩

/-- A pass whose finding selects a request ends as this request does. -/
theorem reconcile_of_action_some (hfound : (m.observe r w).1 = .ok found)
    (haction : found.action deleting = some method) :
    m.reconcile r deleting w = concluding (found.outcome deleting)
      (m.deploy method found.resource (m.observe r w).2) := by
  rw [reconcile_eq]
  generalize m.observe r w = seen at hfound ⊢
  obtain ⟨result, w'⟩ := seen
  dsimp only at hfound
  subst hfound
  dsimp only
  rw [haction]

/-- A pass whose observation selects no request ends with it. -/
theorem reconcile_alone
    (h : ∀ found, (m.observe r w).1 = .ok found → found.action deleting = none) :
    (m.reconcile r deleting w).2 = (m.observe r w).2 := by
  rw [reconcile_eq]
  generalize m.observe r w = seen at h ⊢
  obtain ⟨result, w'⟩ := seen
  rcases result with e | found
  · rfl
  · dsimp only
    rw [h found rfl]

theorem concluding_snd (outcome : Outcome) (done : Except Failure Resource × World σ) :
    (concluding outcome done).2 = done.2 := by
  obtain ⟨result, w'⟩ := done
  cases result <;> rfl

theorem eq_of_concluding {outcome outcome' : Outcome} {r' : Resource}
    {done : Except Failure Resource × World σ}
    (h : (concluding outcome done).1 = .ok (outcome', r')) : done.1 = .ok r' := by
  obtain ⟨result, w'⟩ := done
  cases result with
  | error e => cases h
  | ok r'' =>
    cases h
    rfl

/-- What follows an observation has the traffic of the request that the finding selects. -/
theorem carries_followUp (m : Manager σ) (r : Resource) (deleting : Bool) (w : World σ) :
    (m.observe r w).2.Carries (m.followUp r deleting w) (m.reconcile r deleting w).2 := by
  unfold followUp
  cases hfound : (m.observe r w).1 with
  | error e =>
    rw [reconcile_alone fun found h => by rw [hfound] at h; cases h]
    exact .refl _
  | ok found =>
    dsimp only
    cases haction : found.action deleting with
    | none =>
      have halone : (m.reconcile r deleting w).2 = (m.observe r w).2 := by
        refine reconcile_alone fun found' hfound' => ?_
        rw [hfound] at hfound'
        cases hfound'
        exact haction
      rw [halone]
      exact .refl _
    | some method =>
      rw [reconcile_of_action_some hfound haction, concluding_snd]
      exact m.carries_deploy found.resource (m.observe r w).2 method

end Pass

/-- A pass is two transactions: the GET request of its observation, and the request which the
finding selects, on the resource of the finding. -/
structure TransactsPass (m : Manager σ) (r : Resource) (deleting : Bool) (w : World σ) : Prop where
  first : m.Transacts .get r w (m.left ⟨.observe, r, w⟩) (m.observe r w).2
  /-- When the observation fails or selects nothing, the pass ends with it. -/
  alone : (∀ found, (m.observe r w).1 = .ok found → found.action deleting = none) →
    (m.reconcile r deleting w).2 = (m.observe r w).2
  second : ∀ found method, (m.observe r w).1 = .ok found → found.action deleting = some method →
    m.left ⟨.observe, r, w⟩ = found.resource ∧
      ∃ r', m.Transacts method found.resource (m.observe r w).2 r' (m.reconcile r deleting w).2 ∧
        ∀ outcome r'', (m.reconcile r deleting w).1 = .ok (outcome, r'') → r'' = r'
  /-- Nothing else is sent. -/
  traffic : w.traffic (m.reconcile r deleting w).2 = w.traffic (m.observe r w).2 ++
    (m.observe r w).2.traffic (m.reconcile r deleting w).2

theorem transactsPass (m : Manager σ) (r : Resource) (deleting : Bool) (w : World σ) :
    m.TransactsPass r deleting w where
  first := by
    have hcall := m.transacts_call ⟨.observe, r, w⟩
    rwa [result_observe] at hcall
  alone := reconcile_alone
  second := by
    intro found method hfound haction
    have hleft : m.left ⟨.observe, r, w⟩ = found.resource := by
      unfold left
      rw [result_observe, hfound]
      rfl
    refine ⟨hleft, ?_⟩
    have hne : method ≠ .get := fun h => found.action_ne_get deleting (h ▸ haction)
    obtain ⟨verb, hverb, rfl⟩ := exists_verb hne
    have hcall := m.transacts_call ⟨verb, found.resource, (m.observe r w).2⟩
    have hresult := m.result_of_ne found.resource (m.observe r w).2 hverb
    rw [reconcile_of_action_some hfound haction, concluding_snd]
    refine ⟨_, hresult ▸ hcall, fun outcome r'' h => ?_⟩
    have hdone := eq_of_concluding h
    unfold left
    rw [hresult, hdone]
  traffic := by
    have hfirst := m.carries_observe r w
    have hsecond := m.carries_followUp r deleting w
    rw [(hfirst.trans hsecond).traffic_eq, hfirst.traffic_eq, hsecond.traffic_eq]

/-- **What is sent is what is resolved, and what is recorded is what was exchanged**, for every
resource, client, store, event and reply: in each verb, and in both halves of a pass. -/
theorem transacts (m : Manager σ) (r : Resource) (w : World σ) :
    (∀ verb, m.Transacts verb.method r w (m.left ⟨verb, r, w⟩) (m.perform verb r w).2) ∧
      ∀ deleting, m.TransactsPass r deleting w :=
  ⟨fun verb => m.transacts_call ⟨verb, r, w⟩, fun deleting => m.transactsPass r deleting w⟩

end Manager

end DesiredState
