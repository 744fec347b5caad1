import DesiredState.Exchange.Client

/-!
# What goes over the wire

The traffic between two worlds is the list of requests sent in between, each with its reply. One
send takes one reply, so that what a verb sent and what it was answered can be read off the worlds
before and after it.

* `World.traffic`: the requests sent from one world to a later one, each with its reply.
* `Traffic.Sends`, `Traffic.Answered`: a method was sent, and answered with a status and a body.
* `World.Carries`: from one world to another exactly this traffic took place; it composes.
* `World.answer`: what a request comes to when it is sent now.
* `Client.send_result`, `Client.carries_send`: **a send gives this answer, and its traffic is the
  one request or nothing.**
-/

namespace DesiredState

/-- Requests in the order in which they were sent, each with its reply. -/
abbrev Traffic := List (Sent × Reply)

namespace World

variable {σ : Type} {w w₁ w₂ : World σ} {t t₁ t₂ : Traffic}

/-- The reply to the request that is sent after `n` others. -/
def replyAt (w : World σ) (n : Nat) : Reply := (w.arrivals.getD n exhausted).reply

/-- The requests sent from one world to a later one, each with its reply. -/
def traffic (w w' : World σ) : Traffic :=
  (w'.sent.drop w.sent.length).mapIdx fun n s => (s, w.replyAt n)

/-- From `w` to `w'` exactly the traffic `t` took place. -/
structure Carries (w : World σ) (t : Traffic) (w' : World σ) : Prop where
  sent : w'.sent = w.sent ++ t.map Prod.fst
  arrivals : w'.arrivals = w.arrivals.drop t.length
  replies : ∀ n x, t[n]? = some x → x.2 = w.replyAt n

theorem replyAt_drop {n : Nat} (h : w₁.arrivals = w.arrivals.drop n) (k : Nat) :
    w₁.replyAt k = w.replyAt (n + k) := by
  unfold replyAt
  rw [h, List.getD_eq_getElem?_getD, List.getD_eq_getElem?_getD, List.getElem?_drop]

/-- The traffic between two worlds is what took place. -/
theorem Carries.traffic_eq (h : w.Carries t w₁) : w.traffic w₁ = t := by
  unfold traffic
  rw [h.sent, List.drop_left]
  apply List.ext_getElem?
  intro n
  rw [List.getElem?_mapIdx, List.getElem?_map]
  cases hx : t[n]? with
  | none => rfl
  | some x =>
    have hr := h.replies n x hx
    simp only [Option.map_some, ← hr]

theorem Carries.refl (w : World σ) : w.Carries [] w where
  sent := by simp
  arrivals := by simp
  replies := by simp

theorem Carries.trans (h₁ : w.Carries t₁ w₁) (h₂ : w₁.Carries t₂ w₂) :
    w.Carries (t₁ ++ t₂) w₂ where
  sent := by rw [h₂.sent, h₁.sent, List.map_append, List.append_assoc]
  arrivals := by rw [h₂.arrivals, h₁.arrivals, List.drop_drop, List.length_append]
  replies := by
    intro n x hx
    rcases Nat.lt_or_ge n t₁.length with hn | hn
    · rw [List.getElem?_append_left hn] at hx
      exact h₁.replies n x hx
    · rw [List.getElem?_append_right hn] at hx
      have hr := h₂.replies _ x hx
      rw [replyAt_drop h₁.arrivals] at hr
      rwa [Nat.add_sub_cancel' hn] at hr

/-- Messages in the log are no traffic. -/
theorem Carries.debug (h : w.Carries t w₁) (logger message : Text) :
    w.Carries t (w₁.debug logger message) :=
  ⟨h.sent, h.arrivals, h.replies⟩

theorem Carries.of_debug {logger message : Text} (h : (w.debug logger message).Carries t w₁) :
    w.Carries t w₁ :=
  ⟨h.sent, h.arrivals, h.replies⟩

/-- The next reply that is received. -/
theorem receive_reply (w : World σ) : w.receive.1 = w.replyAt 0 := by
  unfold receive replyAt
  cases w.arrivals <;> rfl

/-- What a request comes to when it is sent in this world: a response of any status, or an error.
Nothing is sent once the event is set, nor a body that has no encoding. -/
def answer (w : World σ) (q : Request) : Except Failure Response :=
  if w.event = .set then .error (.transport (Client.heading q ++ ": request cancelled"))
  else
    match Text.utf8Fault? q.body with
    | some fault => .error (.encoding fault)
    | none =>
      match w.replyAt 0 with
      | .response status body headers =>
        .ok (.received status body headers)
      | .failed message => .error (.transport (Client.heading q ++ ": " ++ message))
      | .broken message => .error (.broken message)
      | .interrupted => .error .interrupted

end World

namespace Client

variable {σ : Type} (c : Client) (q : Request) (skip : Bool) (w : World σ)

/-- The traffic of one request: none when it is cancelled or has no encoding. -/
def trafficOf : Traffic :=
  if w.event = .set ∨ (Text.utf8Fault? q.body).isSome then []
  else [(c.wireForm q skip, w.replyAt 0)]

/-- The world in which a request has just been handed to the transport. -/
def handed : World σ :=
  { w.debug logger (("Sending " : Text) ++ heading q) with sent := w.sent ++ [c.wireForm q skip] }

/-- A send that is neither cancelled nor without an encoding takes the next reply. -/
theorem send_eq_receive (hw : w.event ≠ .set) (hf : Text.utf8Fault? q.body = none) :
    c.send q skip w =
      match (c.handed q skip w).receive with
      | (.failed message, w) => (.error (.transport (heading q ++ ": " ++ message)), w)
      | (.broken message, w) => (.error (.broken message), w)
      | (.interrupted, w) => (.error .interrupted, w)
      | (.response status body headers, w) =>
        (.ok ⟨q, .received status body headers⟩,
          w.debug logger (heading q ++ " returned HTTP " ++ Text.ofInt status)) := by
  unfold send
  rw [if_neg hw]
  simp only [hf]
  rfl

/-- **A request comes to its answer.** -/
theorem send_result :
    (c.send q skip w).1 = (w.answer q).map fun response => ⟨q, response⟩ := by
  by_cases hw : w.event = .set
  · unfold send World.answer
    rw [if_pos hw, if_pos hw]
    rfl
  cases hf : Text.utf8Fault? q.body with
  | some fault =>
    unfold send World.answer
    rw [if_neg hw, if_neg hw]
    simp only [hf]
    rfl
  | none =>
    -- the request goes out, and its answer is the reply that the world holds ready
    have hr : (c.handed q skip w).receive.1 = w.replyAt 0 := World.receive_reply _
    rw [send_eq_receive c q skip w hw hf]
    unfold World.answer
    rw [if_neg hw]
    simp only [hf, ← hr]
    rcases (c.handed q skip w).receive with ⟨reply, w'⟩
    cases reply <;> rfl

/-- **A request is the whole traffic of its send**, if it goes out. -/
theorem carries_send : w.Carries (c.trafficOf q skip w) (c.send q skip w).2 := by
  unfold trafficOf
  by_cases hw : w.event = .set
  · unfold send
    rw [if_pos (.inl hw), if_pos hw]
    exact .refl w
  cases hf : Text.utf8Fault? q.body with
  | some fault =>
    unfold send
    rw [if_pos (.inr rfl), if_neg hw]
    simp only [hf]
    exact (World.Carries.refl w).debug _ _
  | none =>
    rw [if_neg (by simp [hw]), send_eq_receive c q skip w hw hf]
    have hone : w.Carries [(c.wireForm q skip, w.replyAt 0)] (c.handed q skip w).receive.2 := by
      refine ⟨rfl, ?_, ?_⟩
      · exact (List.drop_one).symm
      · intro n x hx
        cases n with
        | zero => simp at hx; rw [← hx]
        | succ n => simp at hx
    generalize (c.handed q skip w).receive = received at hone ⊢
    obtain ⟨reply, w'⟩ := received
    cases reply with
    | response => exact hone.debug _ _
    | failed => exact hone
    | broken => exact hone
    | interrupted => exact hone

end Client

namespace Traffic

variable {σ : Type} {t t' : Traffic} {m : Method} {status : Int} {body : Text}

/-- A request of the method is in the traffic. -/
def Sends (t : Traffic) (m : Method) : Prop := ∃ x ∈ t, x.1.method = m.name

instance (t : Traffic) (m : Method) : Decidable (t.Sends m) :=
  inferInstanceAs (Decidable (∃ x ∈ t, _))

/-- A request of the method is in the traffic, and a response of this status with this body is its
reply. -/
def Answered (t : Traffic) (m : Method) (status : Int) (body : Text) : Prop :=
  ∃ x ∈ t, x.1.method = m.name ∧ ∃ headers, x.2 = .response status body headers

theorem sends_append : Sends (t ++ t') m ↔ t.Sends m ∨ t'.Sends m := by
  unfold Sends
  simp only [List.mem_append, or_and_right, exists_or]

theorem answered_append :
    Answered (t ++ t') m status body ↔ t.Answered m status body ∨ t'.Answered m status body := by
  unfold Answered
  simp only [List.mem_append, or_and_right, exists_or]

theorem not_sends_nil : ¬ Sends [] m := by simp [Sends]

theorem not_answered_nil : ¬ Answered [] m status body := by simp [Answered]

variable {c : Client} {q : Request} {skip : Bool} {w : World σ} {m' : Method}

/-- A send of one method sends no other. -/
theorem eq_of_sends_trafficOf (hq : q.method = m'.name)
    (h : (c.trafficOf q skip w).Sends m) : m = m' := by
  obtain ⟨x, hx, hm⟩ := h
  unfold Client.trafficOf at hx
  split at hx
  · simp at hx
  · rw [List.mem_singleton] at hx
    subst hx
    exact Method.name_injective (hm.symm.trans hq)

/-- **A send is answered with a response if and only if it comes to one.** -/
theorem answered_trafficOf_iff (hq : q.method = m'.name) :
    (c.trafficOf q skip w).Answered m status body ↔
      m = m' ∧ ∃ response, w.answer q = .ok response ∧ response.status = status ∧
        response.body = body := by
  unfold Client.trafficOf World.answer Answered
  by_cases hw : w.event = .set
  · simp [hw]
  cases hf : Text.utf8Fault? q.body with
  | some fault => simp [hw]
  | none =>
    have hname : (c.wireForm q skip).method = q.method := rfl
    simp only [hw, Option.isSome_none, Bool.false_eq_true, or_self, if_false,
      List.mem_singleton, exists_eq_left, hname, hq]
    constructor
    · rintro ⟨hm, headers, hr⟩
      rw [hr]
      exact ⟨(Method.name_injective hm).symm, _, rfl, rfl, rfl⟩
    · rintro ⟨rfl, response, ha, rfl, rfl⟩
      refine ⟨rfl, ?_⟩
      cases hr : w.replyAt 0 with
      | response status body headers =>
        rw [hr] at ha
        cases ha
        exact ⟨headers, rfl⟩
      | failed | broken | interrupted => rw [hr] at ha; cases ha

end Traffic

end DesiredState
