import DesiredState.CommandLine.Execution
import DesiredState.Proofs.Lifecycle.Pass

/-!
# Managers that agree

Two managers with the same observer and different stores. A verb looks at its store only to save, so
both come to the same results and send the same requests until the first of them is refused a save.
What relates their worlds is a parameter: messages in the log, requests and saves have to keep it.

* `World.Alike`: worlds that differ in their stores at most.
* `Manager.Agrees`: a relation of worlds that the steps of two managers keep.
* `Manager.Agrees.reconcile`: **a pass keeps it, and comes to the same, unless a save is refused.**
* `Manager.Agrees.carryOut`: the same for a command.
-/

namespace DesiredState

variable {σ τ α : Type}

/-- Worlds that differ in their stores at most. -/
structure World.Alike (w : World σ) (v : World τ) : Prop where
  arrivals : w.arrivals = v.arrivals
  event : w.event = v.event
  sent : w.sent = v.sent
  saved : w.saved = v.saved
  log : w.log = v.log

/-- Two steps come to the same, and to related worlds. -/
def Coincide (R : World σ → World τ → Prop) (x : Except Failure α × World σ)
    (y : Except Failure α × World τ) : Prop :=
  x.1 = y.1 ∧ R x.2 y.2

/-- A step ends because the store refused a resource. -/
def IsRefused (x : Except Failure α × World σ) : Prop :=
  ∃ name cause, x.1 = .error (.statusNotSaved name cause)

namespace World.Alike

variable {w : World σ} {v : World τ}

theorem debug (h : w.Alike v) (logger message : Text) :
    (w.debug logger message).Alike (v.debug logger message) :=
  ⟨h.arrivals, h.event, h.sent, h.saved, congrArg (· ++ [_]) h.log⟩

theorem receive (h : w.Alike v) : w.receive.1 = v.receive.1 ∧ w.receive.2.Alike v.receive.2 := by
  unfold World.receive
  rw [h.arrivals, h.event]
  exact ⟨rfl, rfl, rfl, h.sent, h.saved, h.log⟩

/-- A request does not look at the store. -/
theorem send (h : w.Alike v) (c : Client) (q : Request) (skip : Bool) :
    Coincide World.Alike (c.send q skip w) (c.send q skip v) := by
  by_cases hw : w.event = .set
  · have hv : v.event = .set := h.event ▸ hw
    unfold Client.send
    rw [if_pos hw, if_pos hv]
    exact ⟨rfl, h⟩
  have hv : v.event ≠ .set := h.event ▸ hw
  cases hf : Text.utf8Fault? q.body with
  | some fault =>
    unfold Client.send
    rw [if_neg hw, if_neg hv]
    simp only [hf]
    exact ⟨rfl, h.debug _ _⟩
  | none =>
    have hlogged := h.debug Client.logger (("Sending " : Text) ++ Client.heading q)
    have hhanded : (c.handed q skip w).Alike (c.handed q skip v) :=
      ⟨hlogged.arrivals, hlogged.event, congrArg (· ++ [_]) h.sent, hlogged.saved, hlogged.log⟩
    obtain ⟨hreply, hreceived⟩ := hhanded.receive
    rw [c.send_eq_receive q skip w hw hf, c.send_eq_receive q skip v hv hf]
    generalize (c.handed q skip w).receive = received at hreply hreceived ⊢
    generalize (c.handed q skip v).receive = received' at hreply hreceived ⊢
    obtain ⟨reply, w'⟩ := received
    obtain ⟨reply', v'⟩ := received'
    dsimp only at hreply hreceived
    subst hreply
    cases reply with
    | response => exact ⟨rfl, hreceived.debug _ _⟩
    | failed | broken | interrupted => exact ⟨rfl, hreceived⟩

end World.Alike

/-- A request leaves the store and the memory of it alone. -/
theorem Client.send_store (c : Client) (q : Request) (skip : Bool) (w : World σ) :
    (c.send q skip w).2.store = w.store ∧ (c.send q skip w).2.saved = w.saved := by
  by_cases hw : w.event = .set
  · unfold send
    rw [if_pos hw]
    exact ⟨rfl, rfl⟩
  cases hf : Text.utf8Fault? q.body with
  | some fault =>
    unfold send
    rw [if_neg hw]
    simp only [hf]
    exact ⟨rfl, rfl⟩
  | none =>
    have hreceived : (c.handed q skip w).receive.2.store = w.store ∧
        (c.handed q skip w).receive.2.saved = w.saved := ⟨rfl, rfl⟩
    rw [send_eq_receive c q skip w hw hf]
    generalize (c.handed q skip w).receive = received at hreceived ⊢
    obtain ⟨reply, w'⟩ := received
    cases reply <;> exact hreceived

/-- A relation of worlds that messages in the log and the requests of a client keep. -/
structure Client.Agrees (c : Client) (R : World σ → World τ → Prop) : Prop where
  debug : ∀ {w v}, R w v → ∀ logger message, R (w.debug logger message) (v.debug logger message)
  send : ∀ {w v}, R w v → ∀ q skip, Coincide R (c.send q skip w) (c.send q skip v)

namespace Client.Agrees

variable {c : Client} {o : Observer} {R : World σ → World τ → Prop} {w : World σ} {v : World τ}

theorem resolveLogged (h : c.Agrees R) (r : Resource) (method : Method) (hw : R w v) :
    Coincide R (r.resolveLogged method w) (r.resolveLogged method v) := by
  unfold Resource.resolveLogged
  cases r.resolve method with
  | error e => exact ⟨rfl, hw⟩
  | ok q => exact ⟨rfl, h.debug hw _ _⟩

theorem fetch (h : o.client.Agrees R) (r : Resource) (hw : R w v) :
    Coincide R (o.fetch r w) (o.fetch r v) := by
  obtain ⟨hsame, hresolved⟩ := h.resolveLogged r .get hw
  unfold Observer.fetch
  generalize r.resolveLogged .get w = x at hsame hresolved ⊢
  generalize r.resolveLogged .get v = y at hsame hresolved ⊢
  obtain ⟨result, w'⟩ := x
  obtain ⟨_, v'⟩ := y
  cases hsame
  rcases result with e | q
  · exact ⟨rfl, hresolved⟩
  dsimp only at hresolved ⊢
  obtain ⟨hsame, hsent⟩ := h.send hresolved (q.toRequest .get) r.spec.skipTlsVerify
  generalize o.client.send (q.toRequest .get) r.spec.skipTlsVerify w' = x at hsame hsent ⊢
  generalize o.client.send (q.toRequest .get) r.spec.skipTlsVerify v' = y at hsame hsent ⊢
  obtain ⟨result, w''⟩ := x
  obtain ⟨_, v''⟩ := y
  cases hsame
  rcases result with e | exchange
  · cases e <;> exact ⟨rfl, hsent⟩
  · exact ⟨rfl, hsent⟩

theorem desiredState (h : c.Agrees R) (r : Resource) (hw : R w v) :
    Coincide R (Observer.desiredState r w) (Observer.desiredState r v) := by
  obtain ⟨hsame, hresolved⟩ := h.resolveLogged r .put hw
  unfold Observer.desiredState
  generalize r.resolveLogged .put w = x at hsame hresolved ⊢
  generalize r.resolveLogged .put v = y at hsame hresolved ⊢
  obtain ⟨result, w'⟩ := x
  obtain ⟨_, v'⟩ := y
  cases hsame
  cases result <;> exact ⟨rfl, hresolved⟩

/-- Observations do not look at the store. -/
theorem observe (h : o.client.Agrees R) (r : Resource) (hw : R w v) :
    Coincide R (o.observe r w) (o.observe r v) := by
  obtain ⟨hsame, hfetched⟩ := h.fetch r hw
  unfold Observer.observe
  split
  · exact ⟨rfl, hw⟩
  generalize o.fetch r w = x at hsame hfetched ⊢
  generalize o.fetch r v = y at hsame hfetched ⊢
  obtain ⟨result, w'⟩ := x
  obtain ⟨_, v'⟩ := y
  cases hsame
  rcases result with e | ⟨exchange, transportError⟩
  · exact ⟨rfl, hfetched⟩
  dsimp only at hfetched ⊢
  split
  · exact ⟨rfl, hfetched⟩
  obtain ⟨hsame, hdesired⟩ := h.desiredState r hfetched
  generalize Observer.desiredState r w' = x at hsame hdesired ⊢
  generalize Observer.desiredState r v' = y at hsame hdesired ⊢
  obtain ⟨result, w''⟩ := x
  obtain ⟨_, v''⟩ := y
  cases hsame
  rcases result with e | desired
  · exact ⟨rfl, hdesired⟩
  dsimp only at hdesired ⊢
  split <;> exact ⟨rfl, hdesired⟩

end Client.Agrees

/-- A relation of worlds that the steps of two managers keep, unless a save of the first one is
refused. -/
structure Manager.Agrees (m : Manager σ) (m' : Manager τ) (R : World σ → World τ → Prop) :
    Prop where
  observer : m'.observer = m.observer
  client : m.observer.client.Agrees R
  record : ∀ {w v}, R w v → ∀ r exchange transportError,
    IsRefused (m.store.record r exchange transportError w) ∨
      Coincide R (m.store.record r exchange transportError w)
        (m'.store.record r exchange transportError v)

namespace Manager.Agrees

variable {m : Manager σ} {m' : Manager τ} {R : World σ → World τ → Prop} {w : World σ}
  {v : World τ}

theorem observe (h : m.Agrees m' R) (r : Resource) (hw : R w v) :
    IsRefused (m.observe r w) ∨ Coincide R (m.observe r w) (m'.observe r v) := by
  obtain ⟨hsame, hseen⟩ := h.client.observe r hw
  unfold Manager.observe
  rw [h.observer]
  generalize m.observer.observe r w = x at hsame hseen ⊢
  generalize m.observer.observe r v = y at hsame hseen ⊢
  obtain ⟨result, w'⟩ := x
  obtain ⟨_, v'⟩ := y
  cases hsame
  rcases result with e | o
  · cases e with
    | objectNotFound => exact .inr ⟨rfl, h.client.debug hseen _ _⟩
    | _ => exact .inr ⟨rfl, hseen⟩
  dsimp only at hseen ⊢
  have hrecord := h.record hseen (if o.synced then r.resetFailures else r) o.exchange
    o.transportError
  generalize m.store.record (if o.synced then r.resetFailures else r) o.exchange
    o.transportError w' = x at hrecord ⊢
  generalize m'.store.record (if o.synced then r.resetFailures else r) o.exchange
    o.transportError v' = y at hrecord ⊢
  obtain ⟨result, w''⟩ := x
  obtain ⟨result', v''⟩ := y
  rcases hrecord with ⟨name, cause, hrefused⟩ | ⟨hsame, hkept⟩
  · cases hrefused
    exact .inl ⟨name, cause, rfl⟩
  · cases hsame
    cases result <;> exact .inr ⟨rfl, hkept⟩

theorem deploy (h : m.Agrees m' R) (method : Method) (r : Resource) (hw : R w v) :
    IsRefused (m.deploy method r w) ∨
      Coincide R (m.deploy method r w) (m'.deploy method r v) := by
  obtain ⟨hsame, hresolved⟩ := h.client.resolveLogged r method hw
  unfold Manager.deploy
  rw [h.observer]
  generalize r.resolveLogged method w = x at hsame hresolved ⊢
  generalize r.resolveLogged method v = y at hsame hresolved ⊢
  obtain ⟨result, w'⟩ := x
  obtain ⟨_, v'⟩ := y
  cases hsame
  rcases result with e | q
  · exact .inr ⟨rfl, hresolved⟩
  dsimp only at hresolved ⊢
  have hlogged := h.client.debug hresolved logger
    (method.name ++ " " ++ q.url ++ " for " ++ r.name)
  obtain ⟨hsame, hsent⟩ := h.client.send hlogged (q.toRequest method) r.spec.skipTlsVerify
  generalize m.observer.client.send (q.toRequest method) r.spec.skipTlsVerify
    (w'.debug logger (method.name ++ " " ++ q.url ++ " for " ++ r.name)) = x at hsame hsent ⊢
  generalize m.observer.client.send (q.toRequest method) r.spec.skipTlsVerify
    (v'.debug logger (method.name ++ " " ++ q.url ++ " for " ++ r.name)) = y at hsame hsent ⊢
  obtain ⟨result, w''⟩ := x
  obtain ⟨_, v''⟩ := y
  cases hsame
  rcases result with e | exchange
  · cases e <;> exact .inr ⟨rfl, hsent⟩
  · exact h.record hsent r exchange none

/-- **A pass comes to the same with both managers**, unless a save of the first one is refused. -/
theorem reconcile (h : m.Agrees m' R) (r : Resource) (deleting : Bool) (hw : R w v) :
    IsRefused (m.reconcile r deleting w) ∨
      Coincide R (m.reconcile r deleting w) (m'.reconcile r deleting v) := by
  have hobserved := h.observe r hw
  rw [Manager.reconcile_eq, Manager.reconcile_eq]
  generalize m.observe r w = x at hobserved ⊢
  generalize m'.observe r v = y at hobserved ⊢
  obtain ⟨result, w'⟩ := x
  obtain ⟨result', v'⟩ := y
  rcases hobserved with ⟨name, cause, hrefused⟩ | ⟨hsame, hseen⟩
  · cases hrefused
    exact .inl ⟨name, cause, rfl⟩
  cases hsame
  rcases result with e | found
  · exact .inr ⟨rfl, hseen⟩
  dsimp only at hseen ⊢
  cases found.action deleting with
  | none => exact .inr ⟨rfl, hseen⟩
  | some method =>
    have hdeployed := h.deploy method found.resource hseen
    dsimp only
    generalize m.deploy method found.resource w' = x at hdeployed ⊢
    generalize m'.deploy method found.resource v' = y at hdeployed ⊢
    obtain ⟨result, w''⟩ := x
    obtain ⟨result', v''⟩ := y
    rcases hdeployed with ⟨name, cause, hrefused⟩ | ⟨hsame, hdone⟩
    · cases hrefused
      exact .inl ⟨name, cause, rfl⟩
    · cases hsame
      cases result <;> exact .inr ⟨rfl, hdone⟩

/-- A command comes to the same with both managers, unless a save of the first one is refused. -/
theorem carryOut (h : m.Agrees m' R) (c : Command) (r : Resource) (hw : R w v) :
    IsRefused (c.carryOut m r w) ∨ Coincide R (c.carryOut m r w) (c.carryOut m' r v) := by
  unfold Command.carryOut
  cases c with
  | observe =>
    have hobserved := h.observe r hw
    dsimp only
    generalize m.observe r w = x at hobserved ⊢
    generalize m'.observe r v = y at hobserved ⊢
    obtain ⟨result, w'⟩ := x
    obtain ⟨result', v'⟩ := y
    rcases hobserved with ⟨name, cause, hrefused⟩ | ⟨hsame, hseen⟩
    · cases hrefused
      exact .inl ⟨name, cause, rfl⟩
    · cases hsame
      cases result <;> exact .inr ⟨rfl, hseen⟩
  | reconcile | delete =>
    dsimp only
    generalize decide (_ = Command.delete) = deleting
    have hpassed := h.reconcile r deleting hw
    generalize m.reconcile r deleting w = x at hpassed ⊢
    generalize m'.reconcile r deleting v = y at hpassed ⊢
    obtain ⟨result, w'⟩ := x
    obtain ⟨result', v'⟩ := y
    rcases hpassed with ⟨name, cause, hrefused⟩ | ⟨hsame, hdone⟩
    · cases hrefused
      exact .inl ⟨name, cause, rfl⟩
    · cases hsame
      cases result <;> exact .inr ⟨rfl, hdone⟩

end Manager.Agrees

end DesiredState
