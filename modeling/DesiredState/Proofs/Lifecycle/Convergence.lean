import DesiredState.Proofs.Comparison.Reflexive
import DesiredState.Proofs.Lifecycle.Requests
import DesiredState.Proofs.Resource.Independence

/-!
# Convergence

An update that took effect is the last one: when the object answers the next GET request with what
was written, it is found up to date. Two requests meet in this argument, the PUT request of the
first pass and the desired state of the second; they are one because they do not read the response
that was recorded between them.

* `Sent.body`, `Traffic.AnsweredTo`: what was written, and the answer to it.
* `Manager.upToDate_of_inSync`: a pass over an object that has what is asked for.
* `Manager.upToDate_after_update`: **an update is not repeated.**
-/

namespace DesiredState

variable {σ : Type}

/-- The body of a request on the wire; without data it is empty. -/
def Sent.body (s : Sent) : Text := s.data.getD []

theorem Client.body_wireForm (c : Client) (q : Request) (skip : Bool) :
    (c.wireForm q skip).body = q.body := by
  unfold wireForm Sent.body
  cases q.body <;> rfl

/-- A request of the method with the body `sent` is in the traffic, and a response of this status
with this body is its reply. -/
def Traffic.AnsweredTo (t : Traffic) (m : Method) (sent : Text) (status : Int) (body : Text) :
    Prop :=
  ∃ x ∈ t, x.1.method = m.name ∧ x.1.body = sent ∧ ∃ headers, x.2 = .response status body headers

theorem Traffic.AnsweredTo.answered {t : Traffic} {m : Method} {sent body : Text} {status : Int}
    (h : t.AnsweredTo m sent status body) : t.Answered m status body := by
  obtain ⟨x, hx, hm, -, hreply⟩ := h
  exact ⟨x, hx, hm, hreply⟩

/-- A request that has an encoding is answered with the response that is ready for it. -/
theorem World.answer_of_replyAt {w : World σ} {q : Request} {status : Int} {body : Text}
    {headers : List (Text × Text)} (hw : w.event ≠ .set) (hq : q.body.NoSurrogates)
    (hreply : w.replyAt 0 = .response status body headers) :
    w.answer q = .ok (.received status body headers) := by
  have hnone := Text.utf8Fault?_eq_none_iff.2 hq
  unfold answer
  rw [if_neg hw]
  simp only [hnone, hreply]

namespace Resource

variable {r : Resource} {c : Client} {w : World σ} {method method' : Method} {sent body : Text}
  {status : Int}

/-- What a request of a method wrote is the body that the method resolves to. -/
theorem trafficOf_answeredTo
    (h : (r.trafficOf c method w).AnsweredTo method' sent status body) :
    ∃ q response, r.resolve method = .ok q ∧ w.answer (q.toRequest method) = .ok response ∧
      q.body = sent ∧ response.body = body := by
  obtain ⟨-, q, response, hq, hanswer, -, hbody⟩ := trafficOf_answered_iff.1 h.answered
  refine ⟨q, response, hq, hanswer, ?_, hbody⟩
  obtain ⟨x, hx, -, hsent, -⟩ := h
  unfold trafficOf Client.trafficOf at hx
  rw [hq] at hx
  dsimp only at hx
  split at hx
  · cases hx
  · rw [List.mem_singleton] at hx
    subst hx
    rw [← hsent, Client.body_wireForm]
    rfl

end Resource

/-- What is found in sync has no failures and no error afterwards. -/
theorem Resource.observed_of_isSuccess (r : Resource) (exchange : Exchange)
    (h : StatusCode.isSuccess exchange.response.status = true) :
    (r.observed ⟨true, exchange, none⟩).status.failed = 0 ∧
      (r.observed ⟨true, exchange, none⟩).status.error = [] := by
  have hnone := StatusCode.isError_eq_false_of_isSuccess h
  constructor
  · refine (Status.after_none_failed _ _).trans ?_
    rw [hnone]
    rfl
  · by_contra hne
    rw [(Status.after_none_error_ne_nil _ _).1 hne] at hnone
    cases hnone

/-- A pass that has updated the object has sent the PUT request. -/
theorem Finding.action_of_updated {found : Finding} {deleting : Bool}
    (h : found.outcome deleting = .updated) : found.action deleting = some .put := by
  obtain ⟨present, upToDate, r, o⟩ := found
  cases deleting <;> cases present <;> cases upToDate <;> first | rfl | cases h

namespace Manager

variable {m : Manager σ} {r r' : Resource} {w w' : World σ} {get put : ResolvedRequest}
  {response : Response} {desired body : Text} {status status' : Int}
  {headers : List (Text × Text)}

/-- **An object that has what is asked for** needs nothing but the GET request, which clears the
count of failures. -/
theorem upToDate_of_inSync (hstore : m.store.RefusesNothing) (hr : ¬ r.NothingRecorded)
    (hget : r.resolve .get = .ok get) (hanswer : w.answer (get.toRequest .get) = .ok response)
    (hput : r.resolve .put = .ok put)
    (hsync : InSync m.observer.mode response.body put.body response.status) :
    ∃ r', (m.reconcile r false w).1 = .ok (.upToDate, r') ∧
      (m.traffic r w false).methods = [Method.get.name] ∧
      r'.status.failed = 0 ∧ r'.status.error = [] := by
  obtain ⟨hlow, hhigh, hsatisfies⟩ := id hsync
  have hfound : response.status ≠ StatusCode.notFound := by
    unfold StatusCode.notFound
    omega
  have hmatch : put.body.IsObject ↔ response.body.IsObject := by
    by_contra hmismatch
    exact not_satisfies_of_mismatch (fun h => hmismatch h.symm) hsatisfies
  have hdecision : r.decision m.observer.mode w.answer =
      .ok ⟨true, ⟨get.toRequest .get, response⟩, none⟩ := by
    refine Resource.decision_eq_ok_iff.2 ⟨hr, get, _, _, hget, .response hanswer hfound, ?_⟩
    refine Resource.judged_eq_ok_iff.2 ⟨put, hput, hmatch, ?_⟩
    rw [decide_eq_true hsync]
  have hobserve := m.observe_of_refusesNothing r w hstore hdecision
  have hseen := (m.observer.observe_result r w).trans hdecision
  have hclear := r.observed_of_isSuccess ⟨get.toRequest .get, response⟩
    (StatusCode.isSuccess_iff.2 ⟨hlow, hhigh⟩)
  exact ⟨_, m.reconcile_of_action_none r w false hobserve rfl, traffic_inSync hseen rfl, hclear⟩

/-- **What an update leaves behind.** The answer to the PUT request is recorded, and where neither
request reads it both are the ones that were sent before. -/
theorem ready_after_update (hreadGet : ¬ r.ReadsResponse .get) (hreadPut : ¬ r.ReadsResponse .put)
    (hupdated : (m.reconcile r false w).1 = .ok (.updated, r'))
    (htraffic : (m.traffic r w false).AnsweredTo .put desired status body) (hbody : body ≠ []) :
    ¬ r'.NothingRecorded ∧ (∃ get, r'.resolve .get = .ok get ∧ get.body.NoSurrogates) ∧
      ∃ put, r'.resolve .put = .ok put ∧ put.body = desired := by
  obtain ⟨found, hfound, houtcome, hact⟩ := m.reconcile_ok r w false hupdated
  have haction := Finding.action_of_updated houtcome.symm
  rw [haction] at hact
  obtain ⟨⟨⟩, -⟩ | ⟨method, q, response, ⟨⟩, hq, hanswer, rfl⟩ := hact
  rcases finding_cases hfound with ⟨-, rfl⟩ | ⟨o, ho, rfl⟩
  · cases haction
  have hspec := (r.observed_spec o).symm
  -- the PUT request was answered, so that the observation before it was not cancelled
  have hevent : w.event ≠ .set := fun hset =>
    World.event_ne_set_of_answer hanswer (event_observe hset)
  obtain ⟨get, hget, -, hencoded⟩ := Resource.goesOut_of_decision_ok ho hevent
  obtain ⟨x, hx, hm, hsent, hreply⟩ := htraffic
  rw [traffic_eq_append, List.mem_append] at hx
  have hx' : x ∈ m.followUp r false w := hx.resolve_left fun hx => by
    cases Observer.traffic_sends ⟨x, hx, hm⟩
  unfold followUp at hx'
  rw [hfound] at hx'
  simp only [haction] at hx'
  obtain ⟨put, response', hput, hanswer', hwritten, hbody'⟩ :=
    Resource.trafficOf_answeredTo ⟨x, hx', hm, hsent, hreply⟩
  rw [hq] at hput
  cases hput
  rw [hanswer] at hanswer'
  cases hanswer'
  refine ⟨?_, ⟨get, ?_, hencoded⟩, q, ?_, hwritten⟩
  · -- the gate rejects a POST that failed, and this was a PUT with a body in its answer
    unfold Resource.NothingRecorded Resource.withStatus
    simp only [Status.after_none_request, Status.after_none_response]
    rintro (hempty | ⟨hpost, -⟩)
    · exact hbody (hbody'.symm.trans hempty)
    · cases (Method.name_injective hpost : Method.put = Method.post)
  · rw [← hget]
    refine (Resource.resolve_congr ?_ hreadGet).symm
    exact hspec
  · rw [← hq, ← Resource.resolve_congr hspec hreadPut]
    refine (Resource.resolve_congr ?_ hreadPut).symm
    exact hspec

/-- **An update is not repeated.** Suppose that neither the GET nor the PUT request reads the last
response. When a pass has written a text with a PUT request that was answered with a body, and the
first reply that the next pass meets is that text with a status of success, the object is up to
date: the GET request is all that is sent, and neither failures nor an error are left. -/
theorem upToDate_after_update (hreadGet : ¬ r.ReadsResponse .get)
    (hreadPut : ¬ r.ReadsResponse .put) (hstore : m.store.RefusesNothing)
    (hupdated : (m.reconcile r false w).1 = .ok (.updated, r'))
    (hput : (w.traffic (m.reconcile r false w).2).AnsweredTo .put desired status body)
    (hbody : body ≠ []) (hevent : w'.event ≠ .set)
    (hreply : w'.replyAt 0 = .response status' desired headers)
    (hsuccess : 200 ≤ status' ∧ status' ≤ 299) :
    ∃ r'', (m.reconcile r' false w').1 = .ok (.upToDate, r'') ∧
      (w'.traffic (m.reconcile r' false w').2).methods = [Method.get.name] ∧
      r''.status.failed = 0 ∧ r''.status.error = [] := by
  rw [(m.carries_reconcile r w false).traffic_eq] at hput
  rw [(m.carries_reconcile r' w' false).traffic_eq]
  obtain ⟨hr, ⟨get, hget, hencoded⟩, put, hput', rfl⟩ :=
    ready_after_update hreadGet hreadPut hupdated hput hbody
  have hanswer := World.answer_of_replyAt (q := get.toRequest .get) hevent hencoded hreply
  exact upToDate_of_inSync hstore hr hget hanswer hput'
    ⟨hsuccess.1, hsuccess.2, satisfies_self _ _⟩

/-- The page with a body for its PUT request: an object with an array. -/
def writtenPage (status : Status) : Resource where
  name := "page"
  spec := ⟨⟨"u", []⟩, [(.get, ⟨.get, [], [], []⟩),
    (.put, ⟨.put, [], "\x7b\"a\": [1, 2]\x7d", []⟩)], [], false⟩
  status := status

/-- The pass that writes the page over an empty object, after three failures. -/
def overwriting : Pass Nat where
  resource := writtenPage ⟨⟨Method.get.name, "u", [], []⟩, ⟨200, "x", []⟩, 3, "e"⟩
  world := .replying [.response 200 "\x7b\x7d" [], .response 200 "x" []]

/-- The pass after it, which reads what was written. -/
def rereading : Pass Nat where
  resource := writtenPage
    ⟨⟨Method.put.name, "u", "\x7b\"a\": [1, 2]\x7d", []⟩, ⟨200, "x", []⟩, 3, []⟩
  world := .replying [.response 200 "\x7b\"a\": [1, 2]\x7d" []]

/-- The law at an object with an array, where failures were counted before. -/
theorem upToDate_after_overwriting :
    (accepting.reconcile overwriting.resource false overwriting.world).1 =
        .ok (.updated, rereading.resource) ∧
      ∃ r, (accepting.reconcile rereading.resource false rereading.world).1 = .ok (.upToDate, r) ∧
        r.status.failed = 0 := by
  have hupdated : (accepting.reconcile overwriting.resource false overwriting.world).1 =
      .ok (.updated, rereading.resource) := by cbv
  have htraffic : accepting.passTraffic false overwriting =
      [(.ofPage .get, .response 200 "\x7b\x7d" []),
        ({ Sent.ofPage .put with data := some "\x7b\"a\": [1, 2]\x7d" },
          .response 200 "x" [])] := by cbv
  have hput : (accepting.passTraffic false overwriting).AnsweredTo .put
      "\x7b\"a\": [1, 2]\x7d" 200 "x" := by
    rw [htraffic]
    exact ⟨_, List.mem_cons_of_mem _ List.mem_cons_self, rfl, rfl, [], rfl⟩
  have hevent : rereading.world.event ≠ .set := by decide
  obtain ⟨r, hr, -, hfailed, -⟩ := upToDate_after_update (by decide) (by decide)
    accepting_refusesNothing hupdated hput (List.cons_ne_nil _ _) hevent rfl (by decide)
  exact ⟨hupdated, r, hr, hfailed⟩

end Manager

end DesiredState
