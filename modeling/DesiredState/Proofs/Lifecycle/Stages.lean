import DesiredState.Proofs.Lifecycle.Pass

/-!
# What an observation keeps

The stages of an observation act on the world through requests and messages in the log only. What
these two keep, each stage keeps, and so does the observation; its other effects need no look at
the stages. What records keep as well, the verb that observes keeps.

* `Client.Invariant`: what requests and messages keep.
* `Client.Invariant.observe`: **an observation keeps every invariant of its client.**
* `Manager.Invariant.observe`: the same for the verb, which records what it has seen.
* `Manager.Invariant.reconcile`: **so does a pass.**
-/

namespace DesiredState

variable {σ : Type}

/-- A property of worlds that messages in the log and the requests of a client keep. -/
structure Client.Invariant (c : Client) (P : World σ → Prop) : Prop where
  debug : ∀ {w}, P w → ∀ logger message, P (w.debug logger message)
  send : ∀ {w}, P w → ∀ q skipTlsVerify, P (c.send q skipTlsVerify w).2

namespace Client.Invariant

variable {c : Client} {o : Observer} {P : World σ → Prop} {w : World σ}

theorem resolveLogged (h : c.Invariant P) (r : Resource) (method : Method) (hw : P w) :
    P (r.resolveLogged method w).2 := by
  unfold Resource.resolveLogged
  cases r.resolve method with
  | error e => exact hw
  | ok q => exact h.debug hw _ _

theorem fetch (h : o.client.Invariant P) (r : Resource) (hw : P w) : P (o.fetch r w).2 := by
  have hresolved := h.resolveLogged r .get hw
  unfold Observer.fetch
  generalize r.resolveLogged .get w = resolved at hresolved ⊢
  obtain ⟨result, w'⟩ := resolved
  rcases result with e | q
  · exact hresolved
  dsimp only
  have hsent := h.send hresolved (q.toRequest .get) r.spec.skipTlsVerify
  generalize o.client.send (q.toRequest .get) r.spec.skipTlsVerify w' = sent at hsent ⊢
  obtain ⟨result, w''⟩ := sent
  rcases result with e | exchange
  · cases e <;> exact hsent
  · exact hsent

theorem desiredState (h : c.Invariant P) (r : Resource) (hw : P w) :
    P (Observer.desiredState r w).2 := by
  have hresolved := h.resolveLogged r .put hw
  unfold Observer.desiredState
  generalize r.resolveLogged .put w = resolved at hresolved ⊢
  obtain ⟨result, w'⟩ := resolved
  cases result <;> exact hresolved

/-- **An observation keeps every invariant of its client.** -/
theorem observe (h : o.client.Invariant P) (r : Resource) (hw : P w) : P (o.observe r w).2 := by
  have hfetched := h.fetch r hw
  unfold Observer.observe
  split
  · exact hw
  generalize o.fetch r w = fetched at hfetched ⊢
  obtain ⟨result, w'⟩ := fetched
  rcases result with e | ⟨exchange, transportError⟩
  · exact hfetched
  dsimp only
  split
  · exact hfetched
  have hdesired := h.desiredState r hfetched
  generalize Observer.desiredState r w' = desired at hdesired ⊢
  obtain ⟨result, w''⟩ := desired
  rcases result with e | desired
  · exact hdesired
  · dsimp only
    split <;> exact hdesired

end Client.Invariant

/-- A property of worlds that the client and the records of a manager keep. -/
structure Manager.Invariant (m : Manager σ) (P : World σ → Prop) : Prop where
  client : m.observer.client.Invariant P
  record : ∀ {w}, P w → ∀ r exchange transportError,
    P (m.store.record r exchange transportError w).2

namespace Manager.Invariant

variable {m : Manager σ} {P : World σ → Prop} {w : World σ}

/-- The verb that observes keeps every invariant of its manager. -/
theorem observe (h : m.Invariant P) (r : Resource) (hw : P w) : P (m.observe r w).2 := by
  have hseen := h.client.observe r hw
  unfold Manager.observe
  generalize m.observer.observe r w = seen at hseen ⊢
  obtain ⟨result, w'⟩ := seen
  rcases result with e | o
  · cases e with
    | objectNotFound => exact h.client.debug hseen _ _
    | _ => exact hseen
  dsimp only
  have hrecord := h.record hseen (if o.synced then r.resetFailures else r) o.exchange
    o.transportError
  generalize m.store.record (if o.synced then r.resetFailures else r) o.exchange
    o.transportError w' = kept at hrecord ⊢
  obtain ⟨result, w''⟩ := kept
  cases result <;> exact hrecord

/-- The request of a method keeps every invariant of its manager. -/
theorem deploy (h : m.Invariant P) (method : Method) (r : Resource) (hw : P w) :
    P (m.deploy method r w).2 := by
  have hresolved := h.client.resolveLogged r method hw
  unfold Manager.deploy
  generalize r.resolveLogged method w = resolved at hresolved ⊢
  obtain ⟨result, w'⟩ := resolved
  rcases result with e | q
  · exact hresolved
  dsimp only
  have hlogged := h.client.debug hresolved logger (method.name ++ " " ++ q.url ++ " for " ++ r.name)
  have hsent := h.client.send hlogged (q.toRequest method) r.spec.skipTlsVerify
  generalize m.observer.client.send (q.toRequest method) r.spec.skipTlsVerify
    (w'.debug logger (method.name ++ " " ++ q.url ++ " for " ++ r.name)) = sent at hsent ⊢
  obtain ⟨result, w''⟩ := sent
  rcases result with e | exchange
  · cases e <;> exact hsent
  · exact h.record hsent r exchange none

/-- **A pass keeps every invariant of its manager.** -/
theorem reconcile (h : m.Invariant P) (r : Resource) (deleting : Bool) (hw : P w) :
    P (m.reconcile r deleting w).2 := by
  have hobserved := h.observe r hw
  rw [reconcile_eq]
  generalize m.observe r w = seen at hobserved ⊢
  obtain ⟨result, w'⟩ := seen
  rcases result with e | found
  · exact hobserved
  dsimp only
  cases found.action deleting with
  | none => exact hobserved
  | some method =>
    have hdeployed := h.deploy method found.resource hobserved
    dsimp only
    generalize m.deploy method found.resource w' = done at hdeployed ⊢
    obtain ⟨result, w''⟩ := done
    cases result <;> exact hdeployed

end Manager.Invariant

end DesiredState
