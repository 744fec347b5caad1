import DesiredState.Proofs.Lifecycle.Pass
import Mathlib

/-!
# Runs of passes

What one pass records is what the gate of the next one reads. These are the laws of runs in which
each pass is made on the resource that the one before returned, whatever the remote side answers.

* `Manager.nothingRecorded_after_deletion`: what one pass of deleting does to the gate.
* `Manager.nothingRecorded_iff_of_run`: the same for a run of them.
* `Manager.absent_iff_of_run`: **a run of deleting reports absence if and only if the GET request of
  the pass is answered with 404 or an earlier DELETE request was answered without a body.**
* `Manager.post_of_run`: **after a pass that left an object in place, the next pass creates another
  one only after a GET request that is answered with 404, or without a recorded body.**
-/

namespace DesiredState

variable {σ : Type}

namespace Status

variable (s : Status) (exchange : Exchange)

@[simp] theorem after_none_request : (s.after exchange none).request = exchange.request := by
  unfold after
  dsimp only
  split <;> rfl

@[simp] theorem after_none_response : (s.after exchange none).response = exchange.response := by
  unfold after
  dsimp only
  split <;> rfl

theorem after_none_failed : (s.after exchange none).failed =
    s.failed + if StatusCode.isError exchange.response.status then 1 else 0 := by
  unfold after
  dsimp only
  split
  · rfl
  · exact (Int.add_zero _).symm

theorem after_none_error_ne_nil : (s.after exchange none).error ≠ [] ↔
    StatusCode.isError exchange.response.status = true := by
  unfold after
  dsimp only
  split
  · next h => exact iff_of_true (List.cons_ne_nil _ _) h
  · next h => exact iff_of_false (fun hne => hne rfl) h

end Status

namespace Resource

variable {r : Resource} {c : Client} {w : World σ} {method method' : Method} {status : Int}
  {body : Text}

/-- With a response of success recorded, the gate looks at the body only. -/
theorem nothingRecorded_iff_of_isSuccess
    (h : StatusCode.isSuccess r.status.response.status = true) :
    r.NothingRecorded ↔ r.status.response.body = [] := by
  have hs := StatusCode.isSuccess_iff.1 h
  unfold NothingRecorded
  constructor
  · rintro (hbody | ⟨-, hle, -⟩)
    · exact hbody
    · omega
  · exact .inl

theorem trafficOf_sends (h : (r.trafficOf c method w).Sends method') : method' = method := by
  unfold trafficOf at h
  split at h
  · exact absurd h Traffic.not_sends_nil
  · exact Traffic.eq_of_sends_trafficOf rfl h

/-- The request of a method is answered if and only if it resolves and comes to a response. -/
theorem trafficOf_answered_iff :
    (r.trafficOf c method w).Answered method' status body ↔
      method' = method ∧ ∃ q response, r.resolve method = .ok q ∧
        w.answer (q.toRequest method) = .ok response ∧ response.status = status ∧
        response.body = body := by
  unfold trafficOf
  cases r.resolve method with
  | error e => simp [Traffic.not_answered_nil]
  | ok q =>
    rw [Traffic.answered_trafficOf_iff rfl]
    simp

end Resource

namespace Observer

variable {o : Observer} {r : Resource} {w : World σ} {method : Method} {status : Int} {body : Text}

theorem traffic_sends (h : (o.traffic r w).Sends method) : method = .get := by
  unfold traffic at h
  split at h
  · exact absurd h Traffic.not_sends_nil
  · exact Resource.trafficOf_sends h

/-- The GET request of an observation is answered if and only if something is recorded and the
request comes to a response. -/
theorem traffic_answered_iff :
    (o.traffic r w).Answered .get status body ↔
      ¬ r.NothingRecorded ∧ ∃ get response, r.resolve .get = .ok get ∧
        w.answer (get.toRequest .get) = .ok response ∧ response.status = status ∧
        response.body = body := by
  unfold traffic
  by_cases hr : r.NothingRecorded
  · simp [hr, Traffic.not_answered_nil]
  · simp only [hr, if_false, Resource.trafficOf_answered_iff, true_and, not_false_eq_true]

/-- An observation ends without an object if and only if nothing is recorded or its GET request is
answered with 404. -/
theorem decision_eq_objectNotFound_iff_answered :
    r.decision o.mode w.answer = .error .objectNotFound ↔
      r.NothingRecorded ∨ ∃ body, (o.traffic r w).Answered .get StatusCode.notFound body := by
  rw [Resource.decision_eq_objectNotFound_iff w.answer_ne_objectNotFound]
  simp only [traffic_answered_iff]
  by_cases hr : r.NothingRecorded
  · simp [hr]
  · simp only [hr, false_or, not_false_eq_true, true_and]
    constructor
    · rintro ⟨get, response, hget, hanswer, hstatus⟩
      exact ⟨response.body, get, response, hget, hanswer, hstatus, rfl⟩
    · rintro ⟨body, get, response, hget, hanswer, hstatus, -⟩
      exact ⟨get, response, hget, hanswer, hstatus⟩

end Observer

namespace Manager

variable {m : Manager σ} {r r' : Resource} {w : World σ} {deleting : Bool} {outcome : Outcome}
  {method : Method} {status : Int} {body : Text}

/-- A pass that returns has found no object, or has seen and recorded one. -/
theorem finding_cases {found : Finding} (h : (m.observe r w).1 = .ok found) :
    (r.decision m.observer.mode w.answer = .error .objectNotFound ∧
      found = ⟨false, false, r, .none⟩) ∨
    ∃ o, r.decision m.observer.mode w.answer = .ok o ∧
      found = ⟨true, o.synced, r.observed o, o⟩ := by
  rcases m.observe_cases r w with ⟨hd, hf⟩ | ⟨e, -, -, hf⟩ | ⟨o, hd, hf | ⟨cause, hf⟩⟩
  · rw [hf] at h
    cases h
    exact .inl ⟨hd, rfl⟩
  · rw [hf] at h
    cases h
  · rw [hf] at h
    cases h
    exact .inr ⟨o, hd, rfl⟩
  · rw [hf] at h
    cases h

/-- GET requests come from the observation. -/
theorem traffic_answered_get_iff :
    (m.traffic r w deleting).Answered .get status body ↔
      (m.observer.traffic r w).Answered .get status body := by
  unfold traffic
  rw [Traffic.answered_append, or_iff_left]
  split
  · exact Traffic.not_answered_nil
  · next found _ =>
    cases haction : found.action deleting with
    | none => exact Traffic.not_answered_nil
    | some method =>
      intro h
      have hm := (Resource.trafficOf_answered_iff.1 h).1
      exact found.action_ne_get deleting (hm ▸ haction)

/-- **What a pass of deleting does to the gate.** A pass that returns leaves nothing recorded if and
only if nothing was recorded before or its DELETE request was answered without a body. -/
theorem nothingRecorded_after_deletion (h : (m.reconcile r true w).1 = .ok (outcome, r')) :
    r'.NothingRecorded ↔
      r.NothingRecorded ∨ ∃ status, (m.traffic r w true).Answered .delete status [] := by
  obtain ⟨found, hfound, -, hact⟩ := m.reconcile_ok r w true h
  have hobserver : ∀ status, ¬ (m.observer.traffic r w).Answered .delete status [] := by
    rintro status ⟨x, hx, hm, -⟩
    cases Observer.traffic_sends ⟨x, hx, hm⟩
  unfold traffic
  simp only [Traffic.answered_append, hobserver, false_or, hfound]
  rcases finding_cases hfound with ⟨-, rfl⟩ | ⟨o, ho, rfl⟩
  · -- no object: nothing more is sent, and the resource stays as it is
    rcases hact with ⟨-, rfl⟩ | ⟨method, q, response, haction, -⟩
    · simp [Finding.action, Traffic.not_answered_nil]
    · cases haction
  · -- an object: the response to the DELETE request is what is recorded in the end
    have hr := (Resource.decision_ok ho).1
    rcases hact with ⟨haction, -⟩ | ⟨method, q, response, haction, hq, hanswer, rfl⟩
    · cases haction
    cases haction
    simp only [Finding.action, if_true, Resource.trafficOf_answered_iff, true_and, hr, false_or]
    unfold Resource.NothingRecorded Resource.withStatus
    simp only [Status.after_none_request, Status.after_none_response]
    constructor
    · rintro (hbody | ⟨hpost, -⟩)
      · exact ⟨response.status, q, response, hq, hanswer, rfl, hbody⟩
      · cases (Method.name_injective hpost : Method.delete = Method.post)
    · rintro ⟨status, q', response', hq', hanswer', -, hbody⟩
      rw [hq] at hq'
      cases hq'
      rw [hanswer] at hanswer'
      cases hanswer'
      exact .inl hbody

/-- A pass of deleting reports absence if and only if its observation finds no object. -/
theorem absent_iff :
    (∃ r', (m.reconcile r true w).1 = .ok (.absent, r')) ↔
      r.NothingRecorded ∨
        ∃ body, (m.traffic r w true).Answered .get StatusCode.notFound body := by
  simp only [traffic_answered_get_iff]
  rw [← Observer.decision_eq_objectNotFound_iff_answered]
  constructor
  · rintro ⟨r', h⟩
    obtain ⟨found, hfound, houtcome, -⟩ := m.reconcile_ok r w true h
    rcases finding_cases hfound with ⟨hd, -⟩ | ⟨o, -, rfl⟩
    · exact hd
    · cases houtcome
  · intro hd
    rcases m.observe_cases r w with ⟨-, hf⟩ | ⟨e, he, hne, -⟩ | ⟨o, ho, -⟩
    · exact ⟨r, m.reconcile_of_action_none r w true hf rfl⟩
    · rw [hd] at he
      cases he
      exact absurd rfl hne
    · rw [hd] at ho
      cases ho

/-- A pass that finds the object up to date leaves a response of success recorded. -/
theorem isSuccess_of_upToDate (h : (m.reconcile r false w).1 = .ok (.upToDate, r')) :
    StatusCode.isSuccess r'.status.response.status = true := by
  obtain ⟨found, hfound, houtcome, hact⟩ := m.reconcile_ok r w false h
  rcases finding_cases hfound with ⟨-, rfl⟩ | ⟨o, ho, rfl⟩
  · cases houtcome
  have hsynced : o.synced = true := by
    cases hs : o.synced with
    | true => rfl
    | false => rw [hs] at houtcome; cases houtcome
  obtain ⟨-, -, hsync⟩ := Resource.decision_ok ho
  obtain ⟨hnone, hsuccess⟩ := hsync hsynced
  rcases hact with ⟨-, rfl⟩ | ⟨method, q, response, haction, -⟩
  · dsimp only
    unfold Resource.observed
    rw [hnone]
    simpa [Resource.withStatus] using hsuccess
  · simp [Finding.action, hsynced] at haction

/-- In a pass of keeping, a POST request is sent only when the observation finds no object. -/
theorem objectNotFound_of_sends_post (h : (m.traffic r w false).Sends .post) :
    r.decision m.observer.mode w.answer = .error .objectNotFound := by
  unfold traffic at h
  rw [Traffic.sends_append] at h
  rcases h with h | h
  · cases Observer.traffic_sends h
  · split at h
    · exact absurd h Traffic.not_sends_nil
    · next found hfound =>
      rcases finding_cases hfound with ⟨hd, -⟩ | ⟨o, -, rfl⟩
      · exact hd
      · cases hs : o.synced with
        | true =>
          simp only [Finding.action, hs] at h
          exact absurd h Traffic.not_sends_nil
        | false =>
          simp only [Finding.action, hs] at h
          cases Resource.trafficOf_sends h

/-- GET requests come from the observation, which sends none when nothing is recorded. -/
theorem not_sends_get (hr : r.NothingRecorded) : ¬ (m.traffic r w deleting).Sends .get := by
  have hobserver : m.observer.traffic r w = [] := if_pos hr
  unfold traffic
  rw [hobserver, List.nil_append]
  split
  · exact Traffic.not_sends_nil
  · next found _ =>
    split
    · exact Traffic.not_sends_nil
    · next method haction =>
      intro h
      cases Resource.trafficOf_sends h
      exact found.action_ne_get deleting haction

end Manager

/-- A pass of a run: the resource that it is made on, and the world that it meets. Replies, event
and store are whatever they are at that time. -/
structure Pass (σ : Type) where
  resource : Resource
  world : World σ

namespace Manager

variable {m : Manager σ} {ps : List (Pass σ)} {p q : Pass σ}

/-- The pass `q` is made on the resource that the pass `p` returned. -/
def Follows (m : Manager σ) (deleting : Bool) (p q : Pass σ) : Prop :=
  ∃ outcome, (m.reconcile p.resource deleting p.world).1 = .ok (outcome, q.resource)

/-- A run of passes, each on the resource that the one before returned. -/
def Run (m : Manager σ) (deleting : Bool) (ps : List (Pass σ)) : Prop :=
  ps.IsChain (m.Follows deleting)

/-- What a pass sent, each request with its reply. -/
def passTraffic (m : Manager σ) (deleting : Bool) (p : Pass σ) : Traffic :=
  p.world.traffic (m.reconcile p.resource deleting p.world).2

theorem passTraffic_eq (m : Manager σ) (deleting : Bool) (p : Pass σ) :
    m.passTraffic deleting p = m.traffic p.resource p.world deleting :=
  (m.carries_reconcile p.resource p.world deleting).traffic_eq

end Manager

/-! ### A page as an example

A resource with one URL and no texts in its templates, so that its four requests differ in their
methods only. -/

/-- A page, with what is recorded of it. -/
def Resource.page (status : Status) : Resource where
  name := "page"
  spec := ⟨⟨"u", []⟩, Method.all.map fun m => (m, ⟨m, [], [], []⟩), [], false⟩
  status := status

/-- The page's request of a method was answered with this code and body. -/
def Status.ofPage (method : Method) (code : Int) (body : Text) : Status :=
  ⟨⟨method.name, "u", [], []⟩, ⟨code, body, []⟩, 0, []⟩

/-- The page's request of a method as it is handed to the transport. -/
def Sent.ofPage (method : Method) : Sent :=
  ⟨method.name, "u", none, [], true, .finite false 1 0, .finite false 1 0⟩

/-- A manager whose store refuses nothing. -/
def Manager.accepting : Manager Nat where
  observer := ⟨⟨.finite false 1 0, .finite false 1 0, false⟩, .ordered⟩
  store := .refusing []

theorem Manager.accepting_refusesNothing : Manager.accepting.store.RefusesNothing := fun _ _ => rfl

/-- A world without cancellation that gives these replies. -/
def World.replying (replies : List Reply) : World Nat :=
  ⟨replies.map (⟨·, false⟩), .absent, [], 0, [], []⟩

namespace Manager

variable {m : Manager σ} {ps : List (Pass σ)} {p q : Pass σ}

/-- In a run of deleting that starts with something recorded, nothing is recorded at a later pass
if and only if a DELETE request before it was answered without a body. -/
theorem nothingRecorded_iff_of_run (hrun : m.Run true (ps ++ [p]))
    (hfirst : ∀ q ∈ (ps ++ [p]).head?, ¬ q.resource.NothingRecorded) :
    p.resource.NothingRecorded ↔
      ∃ q ∈ ps, ∃ status, (m.passTraffic true q).Answered .delete status [] := by
  -- from the end of the run: what the last pass before `p` leaves is what the gate reads at `p`
  induction ps using List.reverseRecOn generalizing p with
  | nil =>
    have hp := hfirst p rfl
    simp [hp]
  | append_singleton ps q ih =>
    obtain ⟨hbefore, -, hlast⟩ := List.isChain_append.1 hrun
    obtain ⟨outcome, hq⟩ := hlast q (by simp) p rfl
    have hq' := ih hbefore (by simpa using hfirst)
    rw [nothingRecorded_after_deletion hq, hq', ← passTraffic_eq m true q]
    simp only [List.mem_append, List.mem_singleton, or_and_right, exists_or, exists_eq_left]

/-- **Absence in a run of deleting.** Starting with something recorded, a pass reports that the
object is absent if and only if its own GET request is answered with 404 or a DELETE request of an
earlier pass was answered without a body, whatever the status of that answer. -/
theorem absent_iff_of_run (hrun : m.Run true (ps ++ [p]))
    (hfirst : ∀ q ∈ (ps ++ [p]).head?, ¬ q.resource.NothingRecorded) :
    (∃ r, (m.reconcile p.resource true p.world).1 = .ok (.absent, r)) ↔
      (∃ body, (m.passTraffic true p).Answered .get StatusCode.notFound body) ∨
        ∃ q ∈ ps, ∃ status, (m.passTraffic true q).Answered .delete status [] := by
  rw [absent_iff, nothingRecorded_iff_of_run hrun hfirst, or_comm, passTraffic_eq m true p]

/-- The pass in which the page's DELETE request fails with an answer that has no body. -/
def failedDeletion : Pass Nat where
  resource := .page (.ofPage .get 200 "x")
  world := .replying [.response 200 "x" [], .response 500 [] []]

/-- The pass after it. -/
def afterFailedDeletion : Pass Nat where
  resource := .page { Status.ofPage .delete 500 [] with
    failed := 1, error := "HTTP request failed with status code 500" }
  world := .replying []

theorem run_failedDeletion : accepting.Run true [failedDeletion, afterFailedDeletion] :=
  List.isChain_pair.2 ⟨.deleted, by cbv⟩

theorem passTraffic_failedDeletion :
    accepting.passTraffic true failedDeletion =
      [(.ofPage .get, .response 200 "x" []),
        (.ofPage .delete, .response 500 [] [])] := by
  cbv

/-- The law at a DELETE request that failed with status 500 and no body. -/
theorem absent_after_failedDeletion :
    accepting.Run true ([failedDeletion] ++ [afterFailedDeletion]) ∧
      (∀ q ∈ ([failedDeletion] ++ [afterFailedDeletion]).head?, ¬ q.resource.NothingRecorded) ∧
      ∃ r, (accepting.reconcile afterFailedDeletion.resource true afterFailedDeletion.world).1 =
        .ok (.absent, r) := by
  have hfirst : ∀ q ∈ ([failedDeletion] ++ [afterFailedDeletion]).head?,
      ¬ q.resource.NothingRecorded := by
    intro q hq
    cases hq
    decide
  refine ⟨run_failedDeletion, hfirst, (absent_iff_of_run run_failedDeletion hfirst).2 (.inr ?_)⟩
  refine ⟨failedDeletion, by simp, 500, ?_⟩
  rw [passTraffic_failedDeletion]
  exact ⟨_, List.mem_cons_of_mem _ List.mem_cons_self, rfl, [], rfl⟩

/-- **A deletion that failed can be forgotten.** The DELETE request is answered with status 500 and
nothing else happens, yet the next pass reports absence: that no answer but one outside the
errors, or a 404, leads to absence is false of answers without a body. -/
theorem failedDeletion_forgotten :
    accepting.Run true [failedDeletion, afterFailedDeletion] ∧
      ¬ failedDeletion.resource.NothingRecorded ∧
      (accepting.reconcile afterFailedDeletion.resource true afterFailedDeletion.world).1 =
        .ok (.absent, afterFailedDeletion.resource) ∧
      ¬ ((∃ status body, (accepting.passTraffic true failedDeletion).Answered .delete status body ∧
            (¬ (400 ≤ status ∧ status ≤ 599) ∨ status = 404)) ∨
          ∃ q ∈ [failedDeletion, afterFailedDeletion], ∃ body,
            (accepting.passTraffic true q).Answered .get 404 body) := by
  refine ⟨run_failedDeletion, by decide, by cbv, ?_⟩
  have hnothing : accepting.passTraffic true afterFailedDeletion = [] := by cbv
  rintro (⟨status, body, ⟨x, hx, hm, headers, hreply⟩, hstatus⟩ |
    ⟨q, hq, body, x, hx, hm, headers, hreply⟩)
  · rw [passTraffic_failedDeletion, List.mem_pair] at hx
    rcases hx with rfl | rfl
    · have hname : Method.get.name = Method.delete.name := hm
      cases Method.name_injective hname
    · simp only [Reply.response.injEq] at hreply
      omega
  · rw [List.mem_pair] at hq
    rcases hq with rfl | rfl
    · rw [passTraffic_failedDeletion, List.mem_pair] at hx
      rcases hx with rfl | rfl
      · simp at hreply
      · have hname : Method.delete.name = Method.get.name := hm
        cases Method.name_injective hname
    · rw [hnothing] at hx
      cases hx

/-- **No second creation without need.** After a pass that created or updated the object with a
response of success, or found it up to date, the next pass sends a POST request only when its GET
request is answered with 404 or when the recorded response has no body; in the latter case it sends
no GET request at all. -/
theorem post_of_run (hrun : m.Run false ps) (hnext : [p, q] <:+: ps) :
    ∃ outcome, (m.reconcile p.resource false p.world).1 = .ok (outcome, q.resource) ∧
      (outcome = .upToDate ∨ ((outcome = .created ∨ outcome = .updated) ∧
          StatusCode.isSuccess q.resource.status.response.status = true) →
        ((m.passTraffic false q).Sends .post →
          (∃ body, (m.passTraffic false q).Answered .get StatusCode.notFound body) ∨
            q.resource.status.response.body = []) ∧
        (q.resource.status.response.body = [] → ¬ (m.passTraffic false q).Sends .get)) := by
  have hchain := List.IsChain.infix hrun hnext
  obtain ⟨outcome, hp⟩ := List.isChain_pair.1 hchain
  refine ⟨outcome, hp, fun hend => ?_⟩
  have hsuccess : StatusCode.isSuccess q.resource.status.response.status = true := by
    rcases hend with rfl | ⟨-, hs⟩
    · exact isSuccess_of_upToDate hp
    · exact hs
  have hgate := Resource.nothingRecorded_iff_of_isSuccess hsuccess
  rw [passTraffic_eq]
  refine ⟨fun hpost => ?_, fun hbody => not_sends_get (hgate.2 hbody)⟩
  have hnone := objectNotFound_of_sends_post hpost
  rcases Observer.decision_eq_objectNotFound_iff_answered.1 hnone with hr | ⟨body, h404⟩
  · exact .inr (hgate.1 hr)
  · exact .inl ⟨body, Traffic.answered_append.2 (.inl h404)⟩

/-- The pass that creates the page, with the body of the answer. -/
def creation (body : Text) : Pass Nat where
  resource := .page .empty
  world := .replying [.response 201 body []]

/-- The pass after it, with the replies that it meets. -/
def afterCreation (body : Text) (replies : List Reply) : Pass Nat where
  resource := .page (.ofPage .post 201 body)
  world := .replying replies

/-- The law at an object that is gone when the next pass looks for it. -/
theorem post_after_creation :
    accepting.Run false [creation "x", afterCreation "x" [.response 404 [] []]] ∧
      [creation "x", afterCreation "x" [.response 404 [] []]] <:+:
        [creation "x", afterCreation "x" [.response 404 [] []]] ∧
      ∃ body, (accepting.passTraffic false (afterCreation "x" [.response 404 [] []])).Answered .get
        StatusCode.notFound body := by
  have hcreated : (accepting.reconcile (creation "x").resource false (creation "x").world).1 =
      .ok (.created, (afterCreation "x" [.response 404 [] []]).resource) := by cbv
  have hrun : accepting.Run false [creation "x", afterCreation "x" [.response 404 [] []]] :=
    List.isChain_pair.2 ⟨.created, hcreated⟩
  have htraffic : accepting.passTraffic false (afterCreation "x" [.response 404 [] []]) =
      [(.ofPage .get, .response 404 [] []),
        (.ofPage .post, .failed "script exhausted")] := by cbv
  obtain ⟨outcome, hp, hlaw⟩ := post_of_run hrun List.infix_rfl
  rw [hcreated] at hp
  cases hp
  have hpost : (accepting.passTraffic false (afterCreation "x" [.response 404 [] []])).Sends
      .post := by
    rw [htraffic]
    exact ⟨_, List.mem_cons_of_mem _ List.mem_cons_self, rfl⟩
  exact ⟨hrun, List.infix_rfl,
    ((hlaw (.inr ⟨.inl rfl, rfl⟩)).1 hpost).resolve_right (List.cons_ne_nil _ _)⟩

/-- **An object can be created twice.** The POST request is answered with success and no body, and
the next pass sends another one without a GET request: that only a GET request answered with 404
leads to it is false of answers without a body. -/
theorem creation_repeated :
    accepting.Run false [creation [], afterCreation [] []] ∧
      (accepting.reconcile (creation []).resource false (creation []).world).1 =
        .ok (.created, (afterCreation [] []).resource) ∧
      StatusCode.isSuccess (afterCreation [] []).resource.status.response.status = true ∧
      (accepting.passTraffic false (afterCreation [] [])).Sends .post ∧
      ¬ ∃ body, (accepting.passTraffic false (afterCreation [] [])).Answered .get 404 body := by
  have hcreated : (accepting.reconcile (creation []).resource false (creation []).world).1 =
      .ok (.created, (afterCreation [] []).resource) := by cbv
  have htraffic : accepting.passTraffic false (afterCreation [] []) =
      [(.ofPage .post, .failed "script exhausted")] := by cbv
  refine ⟨List.isChain_pair.2 ⟨_, hcreated⟩, hcreated, rfl, ?_, ?_⟩
  · rw [htraffic]
    exact ⟨_, List.mem_cons_self, rfl⟩
  · rintro ⟨body, x, hx, hm, -⟩
    rw [htraffic, List.mem_singleton] at hx
    subst hx
    have hname : Method.post.name = Method.get.name := hm
    cases Method.name_injective hname

end Manager

end DesiredState
