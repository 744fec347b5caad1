import DesiredState.Proofs.Lifecycle.Pass
import DesiredState.Proofs.Lifecycle.Stages

/-!
# What a verb saves

Which resources a verb hands to the store with success, whatever the remote side answers and
whichever writes the store refuses. A verb that fails has saved nothing, and one that returns has
saved what it returns; a pass puts two such steps together.

* `Store.Accepts`: the resources that a store accepted between two of its states.
* `Store.Keeps`: the same between two worlds.
* `Manager.SavesReturned`, `Manager.SavesFound`, `Manager.SavesOfPass`: what each verb saves.
* `Manager.saves_agree`: **what is in memory and what is in the store agree after every verb.**
-/

namespace DesiredState

variable {σ : Type}

/-- The name and the specification are the same; the status may differ. -/
def Resource.SameDeclaration (r r' : Resource) : Prop := r.name = r'.name ∧ r.spec = r'.spec

namespace Resource.SameDeclaration

variable {r r' r'' : Resource}

theorem refl (r : Resource) : r.SameDeclaration r := ⟨rfl, rfl⟩

theorem trans (h : r.SameDeclaration r') (h' : r'.SameDeclaration r'') : r.SameDeclaration r'' :=
  ⟨h.1.trans h'.1, h.2.trans h'.2⟩

theorem withStatus (r : Resource) (s : Status) : (r.withStatus s).SameDeclaration r := ⟨rfl, rfl⟩

theorem observed (r : Resource) (o : Observation) : (r.observed o).SameDeclaration r := by
  unfold Resource.observed
  cases o.synced <;> exact ⟨rfl, rfl⟩

end Resource.SameDeclaration

namespace Store

variable {store : Store σ} {s s' s'' : σ} {w w' w'' : World σ} {rs rs' : List Resource}

/-- From one state of a store to another exactly these resources were accepted, in this order.
Writes that were refused may stand between them. -/
inductive Accepts (store : Store σ) : σ → List Resource → σ → Prop
  | nothing (s : σ) : Accepts store s [] s
  | refused {s s' s'' : σ} {r : Resource} {cause : Text} {rs : List Resource} :
    store.save r s = (.error cause, s') → Accepts store s' rs s'' → Accepts store s rs s''
  | accepted {s s' s'' : σ} {r : Resource} {rs : List Resource} :
    store.save r s = (.ok (), s') → Accepts store s' rs s'' → Accepts store s (r :: rs) s''

theorem Accepts.trans (h : store.Accepts s rs s') (h' : store.Accepts s' rs' s'') :
    store.Accepts s (rs ++ rs') s'' := by
  induction h with
  | nothing s => exact h'
  | refused hsave _ ih => exact .refused hsave (ih h')
  | accepted hsave _ ih => exact .accepted hsave (ih h')

/-- What was accepted was saved with success at some time. -/
theorem Accepts.saved (h : store.Accepts s rs s') :
    ∀ r ∈ rs, ∃ s₁ s₂, store.save r s₁ = (.ok (), s₂) := by
  induction h with
  | nothing => exact List.forall_mem_nil _
  | refused _ _ ih => exact ih
  | accepted hsave _ ih => exact List.forall_mem_cons.2 ⟨⟨_, _, hsave⟩, ih⟩

/-- From one world to another exactly these resources were saved: the store accepted them and no
others, and the world remembers them. -/
structure Keeps (store : Store σ) (w : World σ) (rs : List Resource) (w' : World σ) : Prop where
  saved : w'.saved = w.saved ++ rs
  accepted : store.Accepts w.store rs w'.store

theorem Keeps.trans (h : store.Keeps w rs w') (h' : store.Keeps w' rs' w'') :
    store.Keeps w (rs ++ rs') w'' where
  saved := by rw [h'.saved, h.saved, List.append_assoc]
  accepted := h.accepted.trans h'.accepted

/-- A step that touches neither the store nor the memory of it saves nothing. -/
theorem Keeps.of_eq (hsaved : w'.saved = w.saved) (hstore : w'.store = w.store) :
    store.Keeps w [] w' where
  saved := by rw [hsaved, List.append_nil]
  accepted := by rw [hstore]; exact .nothing w.store

theorem Keeps.refl (store : Store σ) (w : World σ) : store.Keeps w [] w := .of_eq rfl rfl

/-- Messages in the log save nothing. -/
theorem Keeps.debug (h : store.Keeps w rs w') (logger message : Text) :
    store.Keeps w rs (w'.debug logger message) :=
  ⟨h.saved, h.accepted⟩

/-- **A record saves the resource that it returns, or nothing.** -/
theorem keeps_record (store : Store σ) (r : Resource) (exchange : Exchange)
    (transportError : Option Text) (w : World σ) :
    match store.record r exchange transportError w with
    | (.error _, w') => store.Keeps w [] w'
    | (.ok r', w') => store.Keeps w [r'] w' ∧ r'.SameDeclaration r := by
  unfold record keep
  cases hsave : store.save (r.withStatus (r.status.after exchange transportError)) w.store with
  | mk result s =>
    rcases result with cause | _
    · exact ⟨(List.append_nil _).symm, .refused hsave (.nothing s)⟩
    · exact ⟨⟨rfl, .accepted hsave (.nothing s)⟩, .withStatus r _⟩

end Store

/-- A request saves nothing. -/
theorem Client.keeps_send (store : Store σ) (c : Client) (q : Request) (skip : Bool)
    (w : World σ) : store.Keeps w [] (c.send q skip w).2 := by
  by_cases hw : w.event = .set
  · unfold send
    rw [if_pos hw]
    exact .refl store w
  cases hf : Text.utf8Fault? q.body with
  | some fault =>
    unfold send
    rw [if_neg hw]
    simp only [hf]
    exact (Store.Keeps.refl store w).debug _ _
  | none =>
    have hreceived : store.Keeps w [] (c.handed q skip w).receive.2 := .of_eq rfl rfl
    rw [send_eq_receive c q skip w hw hf]
    generalize (c.handed q skip w).receive = received at hreceived ⊢
    obtain ⟨reply, w'⟩ := received
    cases reply with
    | response => exact hreceived.debug _ _
    | failed | broken | interrupted => exact hreceived

/-- Requests and messages in the log leave what was saved as it is. -/
theorem Client.invariant_keeps (store : Store σ) (c : Client) (w : World σ) (rs : List Resource) :
    c.Invariant fun w' => store.Keeps w rs w' where
  debug hw := hw.debug
  send {w'} hw q skip := by
    have hsent := hw.trans (c.keeps_send store q skip w')
    rwa [List.append_nil] at hsent

namespace Manager

variable (m : Manager σ) (r : Resource) (w : World σ) (method : Method) (deleting : Bool)

/-- A verb that returns a resource saves exactly this resource, which differs from the one that it
was given in its status at most; a verb that fails saves nothing. -/
def SavesReturned (verb : Resource → Step σ Resource) : Prop :=
  match verb r w with
  | (.error _, w') => m.store.Keeps w [] w'
  | (.ok r', w') => m.store.Keeps w [r'] w' ∧ r'.SameDeclaration r

/-- Observing saves exactly the resource with its new status if the object exists, and nothing if it
does not or if the observation fails. -/
def SavesFound : Prop :=
  match m.observe r w with
  | (.error _, w') => m.store.Keeps w [] w'
  | (.ok found, w') =>
    if found.present then
      m.store.Keeps w [found.resource] w' ∧ found.resource.SameDeclaration r
    else m.store.Keeps w [] w' ∧ found.resource = r

/-- A pass saves at most two resources. The last of them is the one that it returns, which is the
given one if there are none; if the pass fails, what its observation found is all that it may have
saved. -/
def SavesOfPass : Prop :=
  ∃ saves, m.store.Keeps w saves (m.reconcile r deleting w).2 ∧ saves.length ≤ 2 ∧
    (∀ x ∈ saves, x.SameDeclaration r) ∧
    match (m.reconcile r deleting w).1 with
    | .error _ => saves = [] ∨
      ∃ found, (m.observe r w).1 = .ok found ∧ found.present = true ∧ saves = [found.resource]
    | .ok (_, r') => r' = saves.getLastD r ∧ r'.SameDeclaration r

theorem savesFound : m.SavesFound r w := by
  have hobserved := (m.observer.client.invariant_keeps m.store w []).observe r (.refl m.store w)
  unfold SavesFound observe
  generalize m.observer.observe r w = seen at hobserved ⊢
  obtain ⟨result, w'⟩ := seen
  rcases result with e | o
  · cases e with
    | objectNotFound => exact ⟨hobserved.debug _ _, rfl⟩
    | _ => exact hobserved
  dsimp only
  have hrecord := m.store.keeps_record (if o.synced then r.resetFailures else r) o.exchange
    o.transportError w'
  generalize m.store.record (if o.synced then r.resetFailures else r) o.exchange
    o.transportError w' = kept at hrecord ⊢
  obtain ⟨result, w''⟩ := kept
  rcases result with e | r'
  · exact hobserved.trans hrecord
  · refine ⟨hobserved.trans hrecord.1, hrecord.2.trans ?_⟩
    cases o.synced <;> exact ⟨rfl, rfl⟩

theorem savesReturned : m.SavesReturned r w (m.deploy method) := by
  have hkeeps := m.observer.client.invariant_keeps m.store w []
  have hresolved := hkeeps.resolveLogged r method (.refl m.store w)
  unfold SavesReturned deploy
  generalize r.resolveLogged method w = resolved at hresolved ⊢
  obtain ⟨result, w'⟩ := resolved
  rcases result with e | q
  · exact hresolved
  dsimp only
  generalize hw₁ : w'.debug logger (method.name ++ " " ++ q.url ++ " for " ++ r.name) = w₁
  have hlogged : m.store.Keeps w [] w₁ := hw₁ ▸ hresolved.debug _ _
  have hsent := hkeeps.send hlogged (q.toRequest method) r.spec.skipTlsVerify
  generalize m.observer.client.send (q.toRequest method) r.spec.skipTlsVerify w₁ = sent at hsent ⊢
  obtain ⟨result, w''⟩ := sent
  rcases result with e | exchange
  · cases e <;> exact hsent
  dsimp only
  have hrecord := m.store.keeps_record r exchange none w''
  generalize m.store.record r exchange none w'' = kept at hrecord ⊢
  obtain ⟨result, w₃⟩ := kept
  rcases result with e | r'
  · exact hsent.trans hrecord
  · exact ⟨hsent.trans hrecord.1, hrecord.2⟩

/-- The finding of an observation with what was saved for it. -/
theorem saves_of_found {found : Finding} {w' : World σ} (h : m.observe r w = (.ok found, w')) :
    ∃ saves, m.store.Keeps w saves w' ∧ saves.length ≤ 1 ∧ found.resource = saves.getLastD r ∧
      found.resource.SameDeclaration r ∧
      (saves = [] ∨ found.present = true ∧ saves = [found.resource]) := by
  have hfound := m.savesFound r w
  unfold SavesFound at hfound
  rw [h] at hfound
  dsimp only at hfound
  cases hpresent : found.present with
  | true =>
    rw [hpresent] at hfound
    exact ⟨[found.resource], hfound.1, Nat.le_refl 1, rfl, hfound.2, .inr ⟨rfl, rfl⟩⟩
  | false =>
    rw [hpresent] at hfound
    obtain ⟨hkeeps, hr⟩ := hfound
    exact ⟨[], hkeeps, Nat.zero_le 1, hr, hr ▸ .refl r, .inl rfl⟩

theorem savesOfPass : m.SavesOfPass r w deleting := by
  unfold SavesOfPass
  rw [reconcile_eq]
  cases hobserve : m.observe r w with
  | mk result w' =>
    rcases result with e | found
    · have hfailed := m.savesFound r w
      unfold SavesFound at hfailed
      rw [hobserve] at hfailed
      exact ⟨[], hfailed, Nat.zero_le 2, nofun, .inl rfl⟩
    obtain ⟨saves, hkeeps, hlength, hlast, hsame, hsaves⟩ := m.saves_of_found r w hobserve
    have hall : ∀ x ∈ saves, x.SameDeclaration r := by
      rintro x hx
      rcases hsaves with rfl | ⟨-, rfl⟩
      · cases hx
      · rw [List.mem_singleton] at hx
        exact hx ▸ hsame
    dsimp only
    cases found.action deleting with
    | none => exact ⟨saves, hkeeps, by omega, hall, hlast, hsame⟩
    | some method =>
      -- the request after the observation saves what it returns, behind what the finding saved
      have hdeploy := m.savesReturned found.resource w' method
      unfold SavesReturned at hdeploy
      dsimp only
      generalize m.deploy method found.resource w' = done at hdeploy ⊢
      obtain ⟨result, w''⟩ := done
      rcases result with e | r'
      · refine ⟨saves, ?_, by omega, hall, ?_⟩
        · have h := hkeeps.trans hdeploy
          rwa [List.append_nil] at h
        · exact hsaves.imp_right fun h => ⟨found, rfl, h⟩
      · obtain ⟨hkept, hsame'⟩ := hdeploy
        refine ⟨saves ++ [r'], hkeeps.trans hkept, ?_, ?_, ?_, hsame'.trans hsame⟩
        · simp only [List.length_append, List.length_singleton]
          omega
        · intro x hx
          rcases List.mem_append.1 hx with hx | hx
          · exact hall x hx
          · rw [List.mem_singleton] at hx
            exact hx ▸ hsame'.trans hsame
        · simp

/-- **What was saved and what is returned agree**, for every store and every reply: after observing,
after each verb that sends a request, and after a pass. -/
theorem saves_agree (m : Manager σ) (r : Resource) (w : World σ) :
    m.SavesFound r w ∧ m.SavesReturned r w m.create ∧ m.SavesReturned r w m.update ∧
      m.SavesReturned r w m.delete ∧ ∀ deleting, m.SavesOfPass r w deleting :=
  ⟨m.savesFound r w, m.savesReturned r w .post, m.savesReturned r w .put,
    m.savesReturned r w .delete, fun deleting => m.savesOfPass r w deleting⟩

end Manager

end DesiredState
