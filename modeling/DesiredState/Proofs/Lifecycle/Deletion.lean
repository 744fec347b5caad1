import DesiredState.Proofs.Lifecycle.Requests
import DesiredState.Proofs.Resource.Independence

/-!
# When a pass of deleting deletes

A pass of deleting observes first, and an observation compares the object with the desired state.
Deleting makes no use of the verdict, but an error of the comparison ends the pass all the same: a
desired state that does not resolve, or that is a JSON object where the remote one is not, keeps the
DELETE request from being sent.

* `World.Uncancelled`: nothing cancels, now or later; an observation keeps this.
* `Resource.decision_of_answer`: what an observation makes of an object that answers.
* `Manager.deletes_iff`: **a DELETE request is sent if and only if the comparison has a verdict.**
* `Manager.undeclared_put_blocks_deletion`: without a PUT mapping, nothing is deleted.
-/

namespace DesiredState

variable {σ : Type}

/-- Nothing cancels: there is no event, or it is unset and no reply sets it. -/
def World.Uncancelled (w : World σ) : Prop :=
  w.event = .absent ∨ (w.event = .unset ∧ ∀ a ∈ w.arrivals, a.cancels = false)

namespace World.Uncancelled

variable {w w' : World σ}

theorem event_ne_set (h : w.Uncancelled) : w.event ≠ .set := by
  rcases h with h | ⟨h, -⟩ <;> rw [h] <;> exact nofun

theorem of_eq (h : w.Uncancelled) (hevent : w'.event = w.event)
    (harrivals : w'.arrivals = w.arrivals) : w'.Uncancelled := by
  unfold Uncancelled
  rw [hevent, harrivals]
  exact h

theorem receive (h : w.Uncancelled) : w.receive.2.Uncancelled := by
  unfold World.receive
  rcases h with h | ⟨h, harrivals⟩
  · exact .inl (by simp [h])
  · refine .inr ⟨?_, fun a ha => harrivals a (List.mem_of_mem_tail ha)⟩
    cases hw : w.arrivals with
    | nil => simp [h, exhausted]
    | cons a as =>
      have ha := harrivals a (by rw [hw]; exact List.mem_cons_self)
      simp [h, ha]

end World.Uncancelled

/-- Requests and messages in the log do not cancel. -/
theorem Client.invariant_uncancelled (c : Client) :
    c.Invariant fun w : World σ => w.Uncancelled where
  debug hw _ _ := hw.of_eq rfl rfl
  send {w} hw q skip := by
    cases hf : Text.utf8Fault? q.body with
    | some fault =>
      unfold send
      rw [if_neg hw.event_ne_set]
      simp only [hf]
      exact hw.of_eq rfl rfl
    | none =>
      have hhanded : (c.handed q skip w).Uncancelled := hw.of_eq rfl rfl
      have hreceived := hhanded.receive
      rw [send_eq_receive c q skip w hw.event_ne_set hf]
      generalize (c.handed q skip w).receive = received at hreceived ⊢
      obtain ⟨reply, w'⟩ := received
      cases reply with
      | response => exact hreceived.of_eq rfl rfl
      | failed | broken | interrupted => exact hreceived

namespace Resource

variable {r : Resource} {answer : Request → Except Failure Response}
  {get put : ResolvedRequest} {response : Response} {e : Failure}

/-- What an object answers is judged. -/
theorem decision_of_answer (mode : ArrayMode) (hr : ¬ r.NothingRecorded)
    (hget : r.resolve .get = .ok get) (hanswer : answer (get.toRequest .get) = .ok response)
    (h404 : response.status ≠ StatusCode.notFound) :
    r.decision mode answer = r.judged mode ⟨get.toRequest .get, response⟩ none := by
  unfold decision
  rw [if_neg hr, hget]
  dsimp only
  rw [hanswer]
  exact if_neg h404

theorem judged_of_error (mode : ArrayMode) (exchange : Exchange) (transportError : Option Text)
    (hput : r.resolve .put = .error e) : r.judged mode exchange transportError = .error e := by
  unfold judged
  rw [hput]

/-- One JSON object beside a text that is none is not judged. -/
theorem judged_of_mismatch (mode : ArrayMode) (exchange : Exchange) (transportError : Option Text)
    (hput : r.resolve .put = .ok put)
    (h : ¬ (put.body.IsObject ↔ exchange.response.body.IsObject)) :
    ∃ mismatch, r.judged mode exchange transportError = .error (.invalidJson mismatch) := by
  unfold judged
  rw [hput]
  dsimp only
  split
  · exact ⟨_, rfl⟩
  next hobserved =>
  split
  · exact ⟨_, rfl⟩
  next hdesired =>
  refine absurd ⟨fun hd => ?_, fun ho => ?_⟩ h
  · by_contra ho
    exact hobserved ⟨hd, ho⟩
  · by_contra hd
    exact hdesired ⟨ho, hd⟩

end Resource

namespace Manager

variable {m : Manager σ} {r : Resource} {w : World σ} {del : ResolvedRequest} {status : Int}
  {body : Text}

theorem invariant_uncancelled (m : Manager σ) :
    m.Invariant fun w : World σ => w.Uncancelled where
  client := m.observer.client.invariant_uncancelled
  record {w} hw r exchange transportError :=
    hw.of_eq (m.store.event_record r exchange transportError w)
      (m.store.carries_record r exchange transportError (.refl w)).arrivals

/-- **When a pass of deleting deletes.** Suppose that its GET request is answered with another status
than 404, that the DELETE request does not read the response, that nothing cancels and that the
store refuses nothing. Then the DELETE request is sent if and only if its body has an encoding, the
desired state resolves, and the desired and the remote body are both JSON objects or both none. A
desired state that does not resolve is the error of the pass, and so is a mismatch of the two. -/
theorem deletes_iff (hdel : r.resolve .delete = .ok del) (hread : ¬ r.ReadsResponse .delete)
    (hw : w.Uncancelled) (hstore : m.store.RefusesNothing)
    (hanswered : (w.traffic (m.reconcile r true w).2).Answered .get status body)
    (h404 : status ≠ 404) :
    ((w.traffic (m.reconcile r true w).2).Sends .delete ↔ del.body.NoSurrogates ∧
        ∃ put, r.resolve .put = .ok put ∧ (put.body.IsObject ↔ body.IsObject)) ∧
      (∀ e, r.resolve .put = .error e → (m.reconcile r true w).1 = .error e) ∧
      ∀ put, r.resolve .put = .ok put → ¬ (put.body.IsObject ↔ body.IsObject) →
        ∃ mismatch, (m.reconcile r true w).1 = .error (.invalidJson mismatch) := by
  rw [(m.carries_reconcile r w true).traffic_eq] at hanswered ⊢
  rw [traffic_sends_iff (by decide)]
  obtain ⟨hr, get, response, hget, hanswer, rfl, rfl⟩ :=
    Observer.traffic_answered_iff.1 (traffic_answered_get_iff.1 hanswered)
  have hdecision := Resource.decision_of_answer m.observer.mode hr hget hanswer h404
  -- an error of the comparison is the error of the observation, and of the pass
  have hfails : ∀ e, r.judged m.observer.mode ⟨get.toRequest .get, response⟩ none = .error e →
      (m.reconcile r true w).1 = .error e := by
    intro e he
    refine (m.reconcile_eq_error_iff r w true).2 (.inl ?_)
    exact m.observe_of_error r w (hdecision.trans he) fun h =>
      Resource.judged_ne_objectNotFound (he.trans (by rw [h]))
  refine ⟨⟨?_, ?_⟩, ?_, ?_⟩
  · rintro ⟨found, hfound, haction, q, hq, -, hencoded⟩
    rcases finding_cases hfound with ⟨-, rfl⟩ | ⟨o, ho, rfl⟩
    · cases haction
    rw [hdecision] at ho
    obtain ⟨put, hput, hmatch, -⟩ := Resource.judged_eq_ok_iff.1 ho
    rw [← Resource.resolve_congr (r.observed_spec o).symm hread, hdel] at hq
    cases hq
    exact ⟨hencoded, put, hput, hmatch⟩
  · rintro ⟨hencoded, put, hput, hmatch⟩
    have ho := hdecision.trans (Resource.judged_eq_ok_iff.2 ⟨put, hput, hmatch, rfl⟩)
    refine ⟨_, m.observe_of_refusesNothing r w hstore ho, rfl, del, ?_, ?_, hencoded⟩
    · rw [← hdel]
      exact (Resource.resolve_congr (r.observed_spec _).symm hread).symm
    · exact (m.invariant_uncancelled.observe r hw).event_ne_set
  · exact fun e he => hfails e (Resource.judged_of_error _ _ _ he)
  · intro put hput hdiffer
    obtain ⟨mismatch, hmismatch⟩ := Resource.judged_of_mismatch m.observer.mode
      ⟨get.toRequest .get, response⟩ none hput hdiffer
    exact ⟨mismatch, hfails _ hmismatch⟩

/-- A pass that deletes the page. -/
def pageDeletion : Pass Nat where
  resource := .page (.ofPage .get 200 "x")
  world := .replying [.response 200 "x" [], .response 200 "gone" []]

theorem uncancelled_replying (replies : List Reply) : (World.replying replies).Uncancelled :=
  .inl rfl

/-- The law at the page, whose desired and remote body are both plain text. -/
theorem page_deleted :
    pageDeletion.resource.resolve .delete = .ok ⟨"u", [], []⟩ ∧
      ¬ pageDeletion.resource.ReadsResponse .delete ∧ pageDeletion.world.Uncancelled ∧
      (accepting.passTraffic true pageDeletion).Answered .get 200 "x" ∧
      (accepting.passTraffic true pageDeletion).Sends .delete := by
  have hdel : pageDeletion.resource.resolve .delete = .ok ⟨"u", [], []⟩ := by cbv
  have hput : pageDeletion.resource.resolve .put = .ok ⟨"u", [], []⟩ := by cbv
  have htraffic : accepting.passTraffic true pageDeletion =
      [(.ofPage .get, .response 200 "x" []),
        (.ofPage .delete, .response 200 "gone" [])] := by cbv
  have hanswered : (accepting.passTraffic true pageDeletion).Answered .get 200 "x" := by
    rw [htraffic]
    exact ⟨_, List.mem_cons_self, rfl, [], rfl⟩
  have hread : ¬ pageDeletion.resource.ReadsResponse .delete := by decide
  have hw : pageDeletion.world.Uncancelled := uncancelled_replying _
  have hlaw := deletes_iff hdel hread hw accepting_refusesNothing hanswered (by decide)
  exact ⟨hdel, hread, hw, hanswered, hlaw.1.2 ⟨List.forall_mem_nil _, _, hput, by decide⟩⟩

/-- The page without a PUT mapping, which was created and is now to be deleted. -/
def readOnlyDeletion : Pass Nat where
  resource :=
    { name := "page"
      spec := ⟨⟨"u", []⟩, [(.get, ⟨.get, [], [], []⟩), (.delete, ⟨.delete, [], [], []⟩)], [], false⟩
      status := .ofPage .post 201 "x" }
  world := .replying [.response 200 "x" [], .response 200 "gone" []]

/-- **A page without a PUT mapping cannot be deleted.** Its GET and DELETE requests resolve, the page
is there, and the pass still fails, for there is no desired state to compare it with: that the
comparison never keeps the DELETE request from being sent is false. -/
theorem undeclared_put_blocks_deletion :
    ¬ readOnlyDeletion.resource.NothingRecorded ∧
      (∃ get, readOnlyDeletion.resource.resolve .get = .ok get) ∧
      (∃ del, readOnlyDeletion.resource.resolve .delete = .ok del) ∧
      ¬ readOnlyDeletion.resource.ReadsResponse .delete ∧
      readOnlyDeletion.world.Uncancelled ∧ accepting.store.RefusesNothing ∧
      (accepting.passTraffic true readOnlyDeletion).Answered .get 200 "x" ∧
      ¬ (accepting.passTraffic true readOnlyDeletion).Sends .delete ∧
      (accepting.reconcile readOnlyDeletion.resource true readOnlyDeletion.world).1 =
        .error (.mappingNotFound "PUT") := by
  have htraffic : accepting.passTraffic true readOnlyDeletion =
      [(.ofPage .get, .response 200 "x" [])] := by cbv
  refine ⟨by decide, ⟨⟨"u", [], []⟩, by cbv⟩, ⟨⟨"u", [], []⟩, by cbv⟩, by decide,
    uncancelled_replying _, accepting_refusesNothing, ?_, ?_, by cbv⟩
  · rw [htraffic]
    exact ⟨_, List.mem_cons_self, rfl, [], rfl⟩
  · rw [htraffic]
    decide

end Manager

end DesiredState
