import DesiredState.Proofs.Lifecycle.Convergence
import DesiredState.Proofs.Lifecycle.Fidelity

/-!
# What an update writes

The desired state is resolved twice in a pass: from the status before it, to be compared, and from
the status that the GET request left, to be written. Where the PUT request does not read the last
response the two are one, so that what an update writes is what was compared.

* `Observer.desiredState_result`: the desired state is the body of the PUT request.
* `Resource.compare_of_decision`: what an observation compared.
* `Manager.put_of_traffic`: the pass that sends a PUT request.
* `Manager.independent_of_status`: **requests that do not read the last response, and what an update
  then writes.**
-/

namespace DesiredState

variable {σ : Type} {r r' : Resource} {mode : ArrayMode} {w : World σ} {o : Observation}

theorem Observer.desiredState_result (r : Resource) (w : World σ) :
    (Observer.desiredState r w).1 = (r.resolve .put).map ResolvedRequest.body := by
  unfold Observer.desiredState Resource.resolveLogged
  cases r.resolve .put <;> rfl

/-- The body of the response is compared with the desired state, and the verdict is kept. -/
theorem Resource.compare_of_decision {answer : Request → Except Failure Response}
    (h : r.decision mode answer = .ok o) :
    ∃ put, r.resolve .put = .ok put ∧
      compare mode o.exchange.response.body put.body o.exchange.response.status = .ok o.synced := by
  obtain ⟨-, get, exchange, transportError, -, -, hjudged⟩ := Resource.decision_eq_ok_iff.1 h
  obtain ⟨put, hput, hobjects, rfl⟩ := Resource.judged_eq_ok_iff.1 hjudged
  refine ⟨put, hput, ?_⟩
  rw [compare_eq, if_neg fun hne => hne.2 (hobjects.1 hne.1),
    if_neg fun hne => hne.2 (hobjects.2 hne.1)]

namespace Manager

variable {m : Manager σ} {deleting : Bool} {x : Sent × Reply}

/-- A PUT request of a pass comes after an observation that found something else than what is asked
for, and it is the request of the resource as the observation left it. -/
theorem put_of_traffic (hx : x ∈ m.traffic r w deleting) (hmethod : x.1.method = Method.put.name) :
    ∃ o q, r.decision m.observer.mode w.answer = .ok o ∧ o.synced = false ∧
      (r.observed o).resolve .put = .ok q ∧ x.1.body = q.body := by
  rw [traffic_eq_append, List.mem_append] at hx
  have hfollow : x ∈ m.followUp r deleting w := hx.resolve_left fun hx => by
    cases Observer.traffic_sends ⟨x, hx, hmethod⟩
  unfold followUp at hfollow
  split at hfollow
  · cases hfollow
  next found hfound =>
  split at hfollow
  · cases hfollow
  next method haction =>
  obtain ⟨q, hconveys⟩ := Resource.conveys_of_mem_trafficOf hfollow
  obtain rfl : method = .put := Method.name_injective (hconveys.method.symm.trans hmethod)
  rcases finding_cases hfound with ⟨-, rfl⟩ | ⟨o, ho, rfl⟩
  · cases deleting <;> cases haction
  · rcases Finding.action_cases haction with ⟨⟨⟩, -⟩ | ⟨-, -, -, hdiffers⟩ | ⟨⟨⟩, -⟩
    exact ⟨o, q, ho, hdiffers, hconveys.resolved, hconveys.body⟩

/-- **Requests that do not read the last response do not depend on the status**: two resources of
one specification resolve a method to the same request, or fail in the same way. So the body of
every PUT request of a pass, if it is such a request, is the desired state that the observation of
this pass compared with the body of the response and found to be different. -/
theorem independent_of_status (r : Resource) :
    (∀ r' : Resource, r.spec = r'.spec →
      (∀ method, ¬ r.ReadsResponse method → r.resolve method = r'.resolve method) ∧
      ∀ name, (∀ method, Text.upper name = method.name → ¬ r.ReadsResponse method) →
        r.resolveNamed name = r'.resolveNamed name) ∧
    (¬ r.ReadsResponse .put →
      ∀ (m : Manager σ) (deleting : Bool) (w : World σ),
        ∀ x ∈ w.traffic (m.reconcile r deleting w).2, x.1.method = Method.put.name →
          (∀ w' : World σ, (Observer.desiredState r w').1 = .ok x.1.body) ∧
          ∃ o, (m.observer.observe r w).1 = .ok o ∧
            compare m.observer.mode o.exchange.response.body x.1.body o.exchange.response.status =
              .ok false) := by
  refine ⟨fun r' hspec => ⟨fun method h => Resource.resolve_congr hspec h,
    fun name h => Resource.resolveNamed_congr hspec h⟩, ?_⟩
  intro hreads m deleting w x hx hmethod
  rw [(m.carries_reconcile r w deleting).traffic_eq] at hx
  obtain ⟨o, q, ho, hdiffers, hq, hbody⟩ := put_of_traffic hx hmethod
  obtain ⟨put, hput, hcompare⟩ := Resource.compare_of_decision ho
  -- the observation left another status behind, which the request does not read
  have hsame : r.resolve .put = .ok q :=
    (Resource.resolve_congr (r.observed_spec o).symm hreads).trans hq
  obtain rfl : q = put := by
    rw [hsame] at hput
    cases hput
    rfl
  refine ⟨fun w' => ?_, o, (m.observer.observe_result r w).trans ho, ?_⟩
  · rw [Observer.desiredState_result, hput, hbody]
    rfl
  · rw [hbody, hcompare, hdiffers]

/-- The page is written over an empty object; what is written is what was compared, and another
status would not have changed it. -/
theorem independent_overwriting :
    (∀ method, ¬ overwriting.resource.ReadsResponse method) ∧
      overwriting.resource.resolveNamed "put" = (writtenPage .empty).resolveNamed "put" ∧
      ∃ x ∈ accepting.passTraffic false overwriting, x.1.method = Method.put.name ∧
        x.1.body = "\x7b\"a\": [1, 2]\x7d" ∧
        (Observer.desiredState overwriting.resource overwriting.world).1 = .ok x.1.body ∧
        ∃ o, (accepting.observer.observe overwriting.resource overwriting.world).1 = .ok o ∧
          compare accepting.observer.mode o.exchange.response.body x.1.body
            o.exchange.response.status = .ok false := by
  have hreads : ∀ method, ¬ overwriting.resource.ReadsResponse method := by
    intro method
    cases method <;> decide
  obtain ⟨hstatus, hput⟩ := @independent_of_status Nat overwriting.resource
  obtain ⟨-, hnamed⟩ := hstatus (writtenPage .empty) rfl
  have htraffic : accepting.passTraffic false overwriting =
      [(.ofPage .get, .response 200 "\x7b\x7d" []),
        ({ Sent.ofPage .put with data := some "\x7b\"a\": [1, 2]\x7d" },
          .response 200 "x" [])] := by cbv
  have hmem : ({ Sent.ofPage .put with data := some "\x7b\"a\": [1, 2]\x7d" },
      Reply.response 200 "x" []) ∈ accepting.passTraffic false overwriting := by
    rw [htraffic]
    exact List.mem_cons_of_mem _ List.mem_cons_self
  obtain ⟨hdesired, hcompared⟩ := hput (hreads .put) accepting false overwriting.world _ hmem rfl
  exact ⟨hreads, hnamed "put" fun method _ => hreads method, _, hmem, rfl, rfl,
    hdesired overwriting.world, hcompared⟩

end Manager

end DesiredState
