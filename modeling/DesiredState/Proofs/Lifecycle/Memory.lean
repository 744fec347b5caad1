import DesiredState.Proofs.Lifecycle.Agreement
import DesiredState.Proofs.Lifecycle.Stages

/-!
# What a verb does to the store

The result of a verb and what it saves depend on the world only through the answers that requests
come to and the state of the store. So each verb is a function of these two, which says nothing of
requests, replies or messages in the log.

* `Memory`: the state of the store with the resources that it has accepted.
* `Manager.observing`, `Manager.deploying`: the verbs as functions of answers and memory.
* `Manager.seen_observe`, `Manager.seen_deploy`: **this is what the verbs come to.**
-/

namespace DesiredState

variable {σ : Type}

/-- The state of the store, and the resources that it has accepted. -/
abbrev Memory (σ : Type) := σ × List Resource

/-- What a world has of the store. -/
def World.memory (w : World σ) : Memory σ := (w.store, w.saved)

/-- A step as it appears from the store. -/
def seen {α : Type} (x : Except Failure α × World σ) : Except Failure α × Memory σ :=
  (x.1, x.2.memory)

/-- What a record does to the store. -/
def Store.recording (store : Store σ) (r : Resource) (mem : Memory σ) :
    Except Failure Resource × Memory σ :=
  match store.save r mem.1 with
  | (.error cause, s) => (.error (.statusNotSaved r.name cause), s, mem.2)
  | (.ok (), s) => (.ok r, s, mem.2 ++ [r])

theorem Store.seen_record (store : Store σ) (r : Resource) (exchange : Exchange)
    (transportError : Option Text) (w : World σ) :
    seen (store.record r exchange transportError w) =
      store.recording (r.withStatus (r.status.after exchange transportError)) w.memory := by
  unfold record keep recording World.memory
  dsimp only
  rcases store.save (r.withStatus (r.status.after exchange transportError)) w.store with
    ⟨cause | _, s⟩ <;> rfl

/-- Requests and messages in the log leave the memory alone. -/
theorem Client.invariant_memory (c : Client) (w : World σ) :
    c.Invariant fun w' : World σ => w'.memory = w.memory where
  debug h _ _ := h
  send {w'} h q skip := by
    obtain ⟨hstore, hsaved⟩ := c.send_store q skip w'
    rw [← h]
    exact Prod.ext hstore hsaved

namespace Manager

/-- What observing does to the store, given the answers. -/
def observing (m : Manager σ) (r : Resource) (answer : Request → Except Failure Response)
    (mem : Memory σ) : Except Failure Finding × Memory σ :=
  match r.decision m.observer.mode answer with
  | .error .objectNotFound => (.ok ⟨false, false, r, .none⟩, mem)
  | .error e => (.error e, mem)
  | .ok o =>
    match m.store.recording (r.observed o) mem with
    | (.error e, mem) => (.error e, mem)
    | (.ok r, mem) => (.ok ⟨true, o.synced, r, o⟩, mem)

/-- What the request of a method does to the store, given the answers. -/
def deploying (m : Manager σ) (method : Method) (r : Resource)
    (answer : Request → Except Failure Response) (mem : Memory σ) :
    Except Failure Resource × Memory σ :=
  match r.resolve method with
  | .error e => (.error e, mem)
  | .ok q =>
    match answer (q.toRequest method) with
    | .error (.transport message) => (.error (.notSent message), mem)
    | .error e => (.error e, mem)
    | .ok response =>
      m.store.recording (r.withStatus (r.status.after ⟨q.toRequest method, response⟩ none)) mem

theorem seen_observe (m : Manager σ) (r : Resource) (w : World σ) :
    seen (m.observe r w) = m.observing r w.answer w.memory := by
  have hdecision := m.observer.observe_result r w
  have hmemory := (m.observer.client.invariant_memory w).observe r rfl
  unfold observe observing
  rw [← hdecision]
  generalize m.observer.observe r w = observed at hmemory ⊢
  obtain ⟨result, w'⟩ := observed
  dsimp only at hmemory ⊢
  rcases result with e | o
  · cases e <;> exact Prod.ext rfl hmemory
  · have hrecord := m.store.seen_record (if o.synced then r.resetFailures else r) o.exchange
      o.transportError w'
    have hobserved : m.store.recording (r.observed o) w.memory =
        seen (m.store.record (if o.synced then r.resetFailures else r) o.exchange
          o.transportError w') := by
      rw [hrecord, hmemory]
      rfl
    dsimp only
    rw [hobserved]
    generalize m.store.record (if o.synced then r.resetFailures else r) o.exchange
      o.transportError w' = kept
    obtain ⟨result, w''⟩ := kept
    cases result <;> rfl

theorem seen_deploy (m : Manager σ) (method : Method) (r : Resource) (w : World σ) :
    seen (m.deploy method r w) = m.deploying method r w.answer w.memory := by
  unfold deploy deploying Resource.resolveLogged
  cases r.resolve method with
  | error e => rfl
  | ok q =>
    dsimp only
    generalize hw₁ : (w.debug Resource.resolutionLogger (r.resolutionMessage method)).debug
      logger (method.name ++ " " ++ q.url ++ " for " ++ r.name) = w₁
    -- the two messages in the log change neither the answers nor the memory
    have hanswer : w₁.answer = w.answer := by
      subst hw₁
      rfl
    have hsent := m.observer.client.send_result (q.toRequest method) r.spec.skipTlsVerify w₁
    have hmemory : (m.observer.client.send (q.toRequest method) r.spec.skipTlsVerify w₁).2.memory =
        w.memory := by
      have hlogged : w₁.memory = w.memory := by
        subst hw₁
        rfl
      exact (m.observer.client.invariant_memory w).send hlogged _ _
    rw [hanswer] at hsent
    generalize m.observer.client.send (q.toRequest method) r.spec.skipTlsVerify w₁ = sent
      at hsent hmemory ⊢
    obtain ⟨result, w'⟩ := sent
    dsimp only at hsent hmemory
    subst hsent
    rcases w.answer (q.toRequest method) with e | response
    · cases e <;> exact Prod.ext rfl hmemory
    · rw [← hmemory]
      exact m.store.seen_record r ⟨q.toRequest method, response⟩ none w'

end Manager

end DesiredState
