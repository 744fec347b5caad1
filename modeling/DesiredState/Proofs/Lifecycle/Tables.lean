import DesiredState.Proofs.Lifecycle.Saves
import DesiredState.Proofs.Resource.Tidy

/-!
# Tables of what is saved

A resource can be read back from its document if its tables repeat no key. The declared tables stay
as they are, the headers of a request come from them, and those of a response are a table; so
whatever a verb saves can be read back.

* `Resource.IsTidy.recorded`: a record keeps the tables tidy.
* `Manager.saved_observe`, `Manager.saved_reconcile`: **what is saved is tidy, and has the
  declaration that the verb was given.**
-/

namespace DesiredState

variable {σ : Type}

namespace Resource

variable {r : Resource} {method : Method} {q : ResolvedRequest}

/-- Rendering keeps the names of headers. -/
theorem keys_renderHeaders {context : Json} {hs hs' : Headers} {missing : List Text}
    (h : renderHeaders context hs = .ok (hs', missing)) : Entries.keys hs' = Entries.keys hs := by
  induction hs generalizing hs' missing with
  | nil =>
    cases h
    rfl
  | cons e hs ih =>
    obtain ⟨name, values⟩ := e
    unfold renderHeaders at h
    split at h
    · cases h
    split at h
    · cases h
    next rest missing' hrest =>
    cases h
    exact congrArg (name :: ·) (ih hrest)

theorem nodup_keys_of_resolve (hr : r.IsTidy) (h : r.resolve method = .ok q) :
    (Entries.keys q.headers).Nodup := by
  unfold resolve at h
  split at h
  · cases h
  next m hm =>
  unfold generate at h
  split at h
  · cases h
  next request unresolved hrender =>
  split at h
  · cases h
  cases h
  unfold renderMapping at hrender
  dsimp only at hrender
  split at hrender
  · cases hrender
  split at hrender
  · cases hrender
  split at hrender
  · cases hrender
  next headers missing hheaders =>
  cases hrender
  dsimp only
  rw [keys_renderHeaders hheaders]
  exact Entries.nodup_keys_merge hr.headers

/-- **A record keeps the tables tidy** if the exchange has tidy ones. -/
theorem IsTidy.recorded {exchange : Exchange} {transportError : Option Text} (hr : r.IsTidy)
    (hrequest : (Entries.keys exchange.request.headers).Nodup)
    (hresponse : (Entries.keys exchange.response.headers).Nodup) :
    (r.withStatus (r.status.after exchange transportError)).IsTidy := by
  obtain ⟨hmethods, hdeclared, hmappings, hheaders, hrecorded, hrecorded'⟩ := hr
  unfold Status.after
  cases transportError with
  | some message => exact ⟨hmethods, hdeclared, hmappings, hheaders, hrecorded, hrecorded'⟩
  | none =>
    dsimp only
    split <;> exact ⟨hmethods, hdeclared, hmappings, hheaders, hrequest, hresponse⟩

theorem IsTidy.resetFailures (hr : r.IsTidy) : r.resetFailures.IsTidy :=
  ⟨hr.methods, hr.declared, hr.mappingHeaders, hr.headers, hr.requestHeaders, hr.responseHeaders⟩

/-- A resource that can be saved for another: it has the same declaration and tidy tables. -/
def IsRecordOf (s r : Resource) : Prop := s.SameDeclaration r ∧ s.IsTidy

end Resource

theorem World.nodup_keys_of_answer {w : World σ} {q : Request} {response : Response}
    (h : w.answer q = .ok response) : (Entries.keys response.headers).Nodup := by
  unfold answer at h
  split at h
  · cases h
  split at h
  · cases h
  split at h
  · cases h
    exact Entries.nodup_keys_ofPairs _
  all_goals cases h

namespace Manager

variable (m : Manager σ) {r : Resource} (w : World σ) (method : Method)

/-- What is found is tidy. -/
theorem isTidy_of_found (hr : r.IsTidy) {found : Finding}
    (h : (m.observe r w).1 = .ok found) : found.resource.IsTidy := by
  rcases m.observe_cases r w with ⟨-, hfound⟩ | ⟨e, -, -, hfound⟩ | ⟨o, hd, hfound⟩
  · cases h.symm.trans hfound
    exact hr
  · cases h.symm.trans hfound
  · rcases hfound with hfound | ⟨cause, hfound⟩
    · cases h.symm.trans hfound
      obtain ⟨-, get, exchange, transportError, hget, hleaves, hjudged⟩ :=
        Resource.decision_eq_ok_iff.1 hd
      obtain ⟨rfl, rfl, -⟩ := Resource.judged_ok hjudged
      have hrequest := Resource.nodup_keys_of_resolve hr hget
      have hbefore : (if o.synced then r.resetFailures else r).IsTidy := by
        split
        · exact hr.resetFailures
        · exact hr
      unfold Resource.observed
      generalize o.exchange = exchange at hleaves ⊢
      generalize o.transportError = transportError at hleaves ⊢
      cases hleaves with
      | response hanswer => exact hbefore.recorded hrequest (World.nodup_keys_of_answer hanswer)
      | failure => exact hbefore.recorded hrequest List.nodup_nil
    · cases h.symm.trans hfound

/-- What the request of a method records is tidy. -/
theorem isTidy_of_deployed (hr : r.IsTidy) {r' : Resource}
    (h : (m.deploy method r w).1 = .ok r') : r'.IsTidy := by
  rcases m.deploy_cases r w method with ⟨q, response, hq, hanswer, hdone⟩ | ⟨e, hdone⟩
  · cases h.symm.trans hdone
    exact hr.recorded (Resource.nodup_keys_of_resolve hr hq)
      (World.nodup_keys_of_answer hanswer)
  · cases h.symm.trans hdone

/-- **What an observation saves has the declaration that it was given, and is tidy.** -/
theorem saved_observe (hr : r.IsTidy) :
    ∃ saves, (m.observe r w).2.saved = w.saved ++ saves ∧ ∀ s ∈ saves, s.IsRecordOf r := by
  have hsaves := m.savesFound r w
  have htidy : ∀ found, (m.observe r w).1 = .ok found → found.resource.IsTidy := fun found =>
    m.isTidy_of_found w hr
  unfold SavesFound at hsaves
  generalize m.observe r w = seen at hsaves htidy ⊢
  obtain ⟨result, w'⟩ := seen
  rcases result with e | found
  · exact ⟨[], hsaves.saved, List.forall_mem_nil _⟩
  dsimp only at hsaves
  split at hsaves
  · exact ⟨_, hsaves.1.saved, List.forall_mem_singleton.2 ⟨hsaves.2, htidy found rfl⟩⟩
  · exact ⟨[], hsaves.1.saved, List.forall_mem_nil _⟩

theorem saved_deploy (hr : r.IsTidy) :
    ∃ saves, (m.deploy method r w).2.saved = w.saved ++ saves ∧ ∀ s ∈ saves, s.IsRecordOf r := by
  have hsaves := m.savesReturned r w method
  have htidy : ∀ r', (m.deploy method r w).1 = .ok r' → r'.IsTidy := fun r' =>
    m.isTidy_of_deployed w method hr
  unfold SavesReturned at hsaves
  generalize m.deploy method r w = done at hsaves htidy ⊢
  obtain ⟨result, w'⟩ := done
  rcases result with e | r'
  · exact ⟨[], hsaves.saved, List.forall_mem_nil _⟩
  · exact ⟨_, hsaves.1.saved, List.forall_mem_singleton.2 ⟨hsaves.2, htidy r' rfl⟩⟩

/-- **So it is with a pass**: what it saves are a finding and the answer to one request. -/
theorem saved_reconcile (hr : r.IsTidy) (deleting : Bool) :
    ∃ saves, (m.reconcile r deleting w).2.saved = w.saved ++ saves ∧
      ∀ s ∈ saves, s.IsRecordOf r := by
  obtain ⟨saves, hsaved, hrecords⟩ := m.saved_observe w hr
  have hfound : ∀ found, (m.observe r w).1 = .ok found → found.resource.IsTidy ∧
      found.resource.SameDeclaration r := by
    intro found h
    refine ⟨m.isTidy_of_found w hr h, ?_⟩
    obtain ⟨-, -, -, -, hsame, -⟩ := m.saves_of_found r w (Prod.ext h rfl)
    exact hsame
  rw [reconcile_eq]
  generalize m.observe r w = seen at hsaved hfound ⊢
  obtain ⟨result, w'⟩ := seen
  rcases result with e | found
  · exact ⟨saves, hsaved, hrecords⟩
  dsimp only at hsaved ⊢
  cases found.action deleting with
  | none => exact ⟨saves, hsaved, hrecords⟩
  | some method =>
    obtain ⟨htidy, hsame⟩ := hfound found rfl
    obtain ⟨saves', hsaved', hrecords'⟩ :=
      m.saved_deploy w' method htidy
    have hconcluded : (concluding (found.outcome deleting)
        (m.deploy method found.resource w')).2 = (m.deploy method found.resource w').2 := by
      generalize m.deploy method found.resource w' = done
      obtain ⟨result, w''⟩ := done
      cases result <;> rfl
    refine ⟨saves ++ saves', ?_, fun s hs => ?_⟩
    · dsimp only
      rw [hconcluded, hsaved', hsaved, List.append_assoc]
    · rcases List.mem_append.1 hs with hs | hs
      · exact hrecords s hs
      · exact ⟨(hrecords' s hs).1.trans hsame, (hrecords' s hs).2⟩

end Manager

end DesiredState
