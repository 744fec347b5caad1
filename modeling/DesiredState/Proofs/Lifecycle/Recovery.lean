import DesiredState.Proofs.Lifecycle.Calls
import DesiredState.Proofs.Resource.Independence

/-!
# After an error answer

An answer with an error status is recorded like any other, and the templates of the next GET request
see it. So a resource whose GET request reads the last response can lose what that request needs,
and then no later observation gets as far as asking the remote side again.

* `Manager.RejectsGet`: an observation fails because its GET request is not valid.
* `Manager.rejectsGet_after_error_iff`: **when an error answer leads to that**; a GET request that
  does not read the response is safe.
* `Manager.error_loses_identifier`: an error page in place of an object with an identifier.
-/

namespace DesiredState

variable {σ : Type}

namespace Manager

/-- An observation fails because its GET request is not valid. -/
def RejectsGet (m : Manager σ) (r : Resource) (w : World σ) : Prop :=
  ∃ declared unresolved, r.resolve .get = .error (.invalidRequest declared unresolved) ∧
    (m.observe r w).1 = .error (.invalidRequest declared unresolved)

variable {m : Manager σ} {c : Call σ} {r : Resource} {w : World σ} {status : Int} {body : Text}

/-- Once something is recorded, an observation fails as its GET request does. -/
theorem observe_eq_error_of_resolve {e : Failure} (hr : ¬ r.NothingRecorded)
    (h : r.resolve .get = .error e) : (m.observe r w).1 = .error e := by
  have hdecision : r.decision m.observer.mode w.answer = .error e := by
    unfold Resource.decision
    rw [if_neg hr, h]
  exact m.observe_of_error r w hdecision fun he => r.resolve_ne_objectNotFound .get (he ▸ h)

/-- A GET request that is not valid is rejected if and only if something is recorded. -/
theorem rejectsGet_iff : m.RejectsGet r w ↔ ¬ r.NothingRecorded ∧
    ∃ mapping, r.mapping? .get = some mapping ∧ r.IsUnusable mapping := by
  rw [← Resource.resolve_eq_invalidRequest_iff]
  constructor
  · rintro ⟨declared, unresolved, hresolve, hobserve⟩
    refine ⟨fun hr => ?_, declared, unresolved, hresolve⟩
    rcases m.observe_cases r w with ⟨-, he⟩ | ⟨e, hd, hne, -⟩ | ⟨o, hd, -⟩
    · rw [hobserve] at he
      cases he
    · unfold Resource.decision at hd
      rw [if_pos hr] at hd
      cases hd
      exact hne rfl
    · exact (Resource.decision_ok hd).1 hr
  · rintro ⟨hr, declared, unresolved, hresolve⟩
    exact ⟨declared, unresolved, hresolve, observe_eq_error_of_resolve hr hresolve⟩

/-- **What an error answer leads to.** After observing, updating or deleting returns with an error
status as the answer, that answer is recorded. The next observation rejects its GET request exactly
if the answer has a body and, with the answer recorded, the GET request is not valid: a path in its
templates leads nowhere, or its URL is blank. That never happens to a GET request which was valid
before and does not read the last response. -/
theorem rejectsGet_after_error_iff (hverb : c.verb ≠ .create) (hresult : (m.result c).1 = .ok r)
    (hanswered : (m.callTraffic c).Answered c.verb.method status body)
    (hstatus : 400 ≤ status ∧ status ≤ 599) (h404 : c.verb = .observe → status ≠ 404) :
    (r.spec = c.resource.spec ∧ r.status.response.status = status ∧
        r.status.response.body = body) ∧
      (∀ w, m.RejectsGet r w ↔ body ≠ [] ∧
        ∃ mapping, r.mapping? .get = some mapping ∧ r.IsUnusable mapping) ∧
      ((∃ get, c.resource.resolve .get = .ok get) → ¬ c.resource.ReadsResponse .get →
        ∀ w, ¬ m.RejectsGet r w) := by
  obtain ⟨q, response, hcomes, rfl, rfl⟩ := (m.callTraffic_answered_iff c).1 hanswered
  obtain ⟨hspec, hrequest, hresponse⟩ := recorded_of_comesTo hresult hcomes h404
  -- of a request that was no POST the gate looks at the body of the answer only
  have hpost : r.status.request.method ≠ Method.post.name := by
    rw [hrequest, hcomes.1.method]
    exact fun h => Verb.method_ne_post hverb (Method.name_injective h)
  have hgate : r.NothingRecorded ↔ response.body = [] := by
    unfold Resource.NothingRecorded
    rw [hresponse]
    exact or_iff_left fun h => hpost h.1
  refine ⟨⟨hspec, by rw [hresponse], by rw [hresponse]⟩, fun w => ?_, ?_⟩
  · rw [rejectsGet_iff, hgate]
  · rintro ⟨get, hget⟩ hread w ⟨declared, unresolved, hinvalid, -⟩
    rw [← Resource.resolve_congr hspec.symm hread, hget] at hinvalid
    cases hinvalid

/-- An observation of the page that is answered with an error. -/
def pageError : Call Nat where
  verb := .observe
  resource := .page (.ofPage .get 200 "x")
  world := .replying [.response 500 "oops" []]

/-- The law at the page, whose GET request reads nothing: it is not rejected afterwards. -/
theorem page_not_rejected_after_error :
    ∃ r, (accepting.result pageError).1 = .ok r ∧ r.status.response.body = "oops" ∧
      ∀ w, ¬ accepting.RejectsGet r w := by
  have hresult : (accepting.result pageError).1 =
      .ok (.page { Status.ofPage .get 500 "oops" with
        failed := 1, error := "HTTP request failed with status code 500" }) := by cbv
  have htraffic : accepting.callTraffic pageError =
      [(.ofPage .get, .response 500 "oops" [])] := by cbv
  have hanswered : (accepting.callTraffic pageError).Answered .get 500 "oops" := by
    rw [htraffic]
    exact ⟨_, List.mem_cons_self, rfl, [], rfl⟩
  have hget : pageError.resource.resolve .get = .ok ⟨"u", [], []⟩ := by cbv
  obtain ⟨⟨-, -, hbody⟩, -, hnever⟩ := rejectsGet_after_error_iff (c := pageError) (by decide) hresult
    hanswered (by decide) (by decide)
  exact ⟨_, hresult, hbody, hnever ⟨_, hget⟩ (by decide)⟩

/-- A page whose GET request takes an identifier from the last response. -/
def trackedPage (status : Status) : Resource where
  name := "page"
  spec := ⟨⟨"u", []⟩,
    [(.get, ⟨.get, "u\x7b\x7b.response.body.id\x7d\x7d", [], []⟩),
      (.put, ⟨.put, [], "x", []⟩)], [], false⟩
  status := status

/-- The page with its identifier recorded, met by an error page. -/
def identifierError : Call Nat where
  verb := .observe
  resource := trackedPage
    ⟨⟨Method.get.name, "u1", [], []⟩, ⟨200, "\x7b\"id\": \"1\"\x7d", []⟩, 0, []⟩
  world := .replying [.response 500 "oops" []]

/-- **An error page can lose an identifier.** Both requests resolve and the observation returns, yet
the next one rejects its GET request, though the remote side has recovered: that no error answer
leads to this is false of a GET request that reads the last response. -/
theorem error_loses_identifier :
    ¬ identifierError.resource.NothingRecorded ∧
      (∃ get, identifierError.resource.resolve .get = .ok get) ∧
      (∃ put, identifierError.resource.resolve .put = .ok put) ∧
      (accepting.callTraffic identifierError).Answered .get 500 "oops" ∧
      ∃ r, (accepting.result identifierError).1 = .ok r ∧
        (accepting.observe r (.replying [.response 200 "x" []])).1 =
          .error (.invalidRequest .get [".response.body.id"]) := by
  have htraffic : accepting.callTraffic identifierError =
      [({ Sent.ofPage .get with url := "u1" }, .response 500 "oops" [])] := by cbv
  refine ⟨by decide, ⟨⟨"u1", [], []⟩, by cbv⟩, ⟨⟨"u", "x", []⟩, by cbv⟩, ?_, ?_⟩
  · rw [htraffic]
    exact ⟨_, List.mem_cons_self, rfl, [], rfl⟩
  · refine ⟨trackedPage ⟨⟨Method.get.name, "u1", [], []⟩, ⟨500, "oops", []⟩, 1,
      "HTTP request failed with status code 500"⟩, by cbv, by cbv⟩

end Manager

end DesiredState
