import DesiredState.Proofs.Lifecycle.Calls

/-!
# The count of failures

The recorded status counts failures: an answer with an error status, and a transport that fails
while observing. An object found up to date clears the count. What is counted is said here by the
traffic of the calls alone, and the count is compared with it over runs of any length.

* `Manager.Fails`: a call recorded a failure, by its traffic.
* `Manager.accounts`: what one call does to the count and to the error.
* `Manager.calls`, `Manager.current`: a run of calls, and the resource after it.
* `Manager.failed_of_calls`: **the count of failures is the number of failures since the object was
  last found up to date.**
-/

namespace DesiredState

variable {σ : Type}

/-- An error of the transport has a text. -/
theorem World.ne_nil_of_answer {w : World σ} {q : Request} {message : Text}
    (h : w.answer q = .error (.transport message)) : message ≠ [] := by
  unfold answer at h
  split at h
  · cases h
    exact List.append_ne_nil_of_right_ne_nil _ (List.cons_ne_nil _ _)
  split at h
  · cases h
  split at h
  · cases h
  · cases h
    refine List.append_ne_nil_of_left_ne_nil ?_ _
    exact List.append_ne_nil_of_right_ne_nil _ (List.cons_ne_nil _ _)
  · cases h
  · cases h

/-- The transport failed while the request of an observation was on its way. -/
def Call.LosesTransport (c : Call σ) : Prop :=
  c.verb = .observe ∧ ∃ q message, c.ComesTo q (.error (.transport message))

namespace Manager

variable (m : Manager σ) (c : Call σ)

/-- The request of a call was answered with an error status. For an observation 404 is none. -/
def MeetsError : Prop :=
  ∃ status body, (m.callTraffic c).Answered c.verb.method status body ∧
    400 ≤ status ∧ status ≤ 599 ∧ ¬ (c.verb = .observe ∧ status = StatusCode.notFound)

/-- The call returned. -/
def Returns : Prop := ∃ r, (m.result c).1 = .ok r

/-- The call recorded a failure. -/
def Fails : Prop := m.Returns c ∧ (m.MeetsError c ∨ c.LosesTransport)

/-- The call recorded an exchange or a failure: it returned, and did not report absence. -/
def Records : Prop := m.Returns c ∧ ¬ m.ReportsAbsence c

variable {m c} {q : Request} {response : Response}

theorem meetsError_iff (hcomes : c.ComesTo q (.ok response)) :
    m.MeetsError c ↔ StatusCode.isError response.status = true ∧
      ¬ (c.verb = .observe ∧ response.status = StatusCode.notFound) := by
  rw [StatusCode.isError_iff]
  unfold MeetsError
  simp only [callTraffic_answered_iff]
  constructor
  · rintro ⟨status, body, ⟨q', response', hcomes', rfl, rfl⟩, hlow, hhigh, h404⟩
    obtain ⟨-, ⟨⟩⟩ := hcomes.eq hcomes'
    exact ⟨⟨hlow, hhigh⟩, h404⟩
  · rintro ⟨⟨hlow, hhigh⟩, h404⟩
    exact ⟨_, _, ⟨q, response, hcomes, rfl, rfl⟩, hlow, hhigh, h404⟩

theorem not_losesTransport (hcomes : c.ComesTo q (.ok response)) : ¬ c.LosesTransport := by
  rintro ⟨-, q', message, hcomes'⟩
  obtain ⟨-, ⟨⟩⟩ := hcomes.eq hcomes'

/-- A call that comes to a response has failed if and only if its status is one of an error. -/
theorem fails_iff (hreturns : m.Returns c) (hcomes : c.ComesTo q (.ok response))
    (h404 : c.verb = .observe → response.status ≠ StatusCode.notFound) :
    m.Fails c ↔ StatusCode.isError response.status = true := by
  unfold Fails
  rw [meetsError_iff hcomes, or_iff_left (not_losesTransport hcomes)]
  exact ⟨fun h => h.2.1, fun h => ⟨hreturns, h, fun hnot => h404 hnot.1 hnot.2⟩⟩

/-- To report absence is no failure. -/
theorem not_fails_of_absence (habsence : m.ReportsAbsence c)
    (hnone : ∀ q answer, c.ComesTo q answer →
      ∃ response, answer = .ok response ∧ response.status = StatusCode.notFound) :
    ¬ m.Fails c := by
  obtain ⟨found, hfound, -⟩ := habsence
  have hverb := (found?_eq_some_iff.1 hfound).1
  rintro ⟨-, ⟨status, body, hanswered, -, -, hnot⟩ | ⟨-, q, message, hcomes⟩⟩
  · obtain ⟨q, response, hcomes, rfl, -⟩ := (m.callTraffic_answered_iff c).1 hanswered
    obtain ⟨_, ⟨⟩, hstatus⟩ := hnone q _ hcomes
    exact hnot ⟨hverb, hstatus⟩
  · obtain ⟨_, ⟨⟩, -⟩ := hnone q _ hcomes

open Classical in
/-- **The account of a call** that leaves the resource `r`. -/
structure Accounts (m : Manager σ) (c : Call σ) (r : Resource) : Prop where
  failed : r.status.failed =
    (if m.Syncs c then 0 else c.resource.status.failed) + if m.Fails c then 1 else 0
  error : m.Records c → (r.status.error ≠ [] ↔ m.Fails c)
  unchanged : ¬ m.Records c → r = c.resource
  /-- What finds the object up to date does not fail. -/
  synced : m.Syncs c → ¬ m.Fails c

theorem Gives.accounts {r : Resource} (h : m.Gives c r) (hreturns : m.Returns c) :
    m.Accounts c r := by
  cases h with
  | absence habsence hsync hnone =>
    have hfails := not_fails_of_absence habsence hnone
    refine ⟨?_, fun hrecords => absurd habsence hrecords.2, fun _ => rfl, fun _ => hfails⟩
    rw [if_neg hsync, if_neg hfails, Int.add_zero]
  | exchange hthere hsync hcomes h404 =>
    have hfails := fails_iff hreturns hcomes h404
    refine ⟨?_, fun _ => ?_, fun hnot => absurd ⟨hreturns, hthere⟩ hnot, fun h => absurd h hsync⟩
    · rw [if_neg hsync]
      simp only [hfails]
      exact Status.after_none_failed _ _
    · rw [hfails]
      exact Status.after_none_error_ne_nil _ _
  | @sync q response hthere hsync hcomes hsuccess =>
    -- success is no error, so that a cleared count stays at zero
    have hnone := StatusCode.isError_eq_false_of_isSuccess hsuccess
    have h404 : response.status ≠ StatusCode.notFound := fun h => by
      rw [h] at hnone
      cases hnone
    have hfails : ¬ m.Fails c := by
      rw [fails_iff hreturns hcomes fun _ => h404, hnone]
      decide
    refine ⟨?_, fun _ => ?_, fun hnot => absurd ⟨hreturns, hthere⟩ hnot, fun _ => hfails⟩
    · rw [if_pos hsync, if_neg hfails]
      refine (Status.after_none_failed _ _).trans ?_
      rw [hnone]
      rfl
    · refine (Status.after_none_error_ne_nil _ _).trans (iff_of_false ?_ hfails)
      rw [hnone]
      decide
  | @failure q message hthere hsync hverb hcomes =>
    have hfails : m.Fails c := ⟨hreturns, .inr ⟨hverb, q, message, hcomes⟩⟩
    refine ⟨?_, fun _ => iff_of_true (World.ne_nil_of_answer hcomes.2) hfails,
      fun hnot => absurd ⟨hreturns, hthere⟩ hnot, fun h => absurd h hsync⟩
    rw [if_neg hsync, if_pos hfails]
    rfl

/-- **Every call keeps the account**, whether it returns or fails. -/
theorem accounts (m : Manager σ) (c : Call σ) : m.Accounts c (m.left c) := by
  unfold left
  cases hresult : (m.result c).1 with
  | ok r => exact (gives_of_result hresult).accounts ⟨r, hresult⟩
  | error e =>
    have hreturns : ¬ m.Returns c := by
      rintro ⟨r, hr⟩
      rw [hresult] at hr
      cases hr
    have hfails : ¬ m.Fails c := fun h => hreturns h.1
    have hsync := not_syncs_of_error hresult
    refine ⟨?_, fun hrecords => absurd hrecords.1 hreturns, fun _ => rfl, fun _ => hfails⟩
    rw [if_neg hsync, if_neg hfails, Int.add_zero]

/-! ### Runs of calls -/

/-- The calls of a run: each verb is called on the resource that the calls before it left, in a
world of its own. -/
def calls (m : Manager σ) : Resource → List (Verb × World σ) → List (Call σ)
  | _, [] => []
  | r, (verb, w) :: script => ⟨verb, r, w⟩ :: m.calls (m.left ⟨verb, r, w⟩) script

/-- The resource that is current after a run. -/
def current (m : Manager σ) (r : Resource) (script : List (Verb × World σ)) : Resource :=
  script.foldl (fun r x => m.left ⟨x.1, r, x.2⟩) r

open Classical in
/-- How many of the calls have failed since one of them found the object up to date. -/
noncomputable def failures (m : Manager σ) (cs : List (Call σ)) : Nat :=
  (cs.rtakeWhile fun c => ¬ m.Syncs c).countP fun c => m.Fails c

variable {r : Resource} {script : List (Verb × World σ)} {cs : List (Call σ)}

theorem current_concat (x : Verb × World σ) :
    m.current r (script ++ [x]) = m.left ⟨x.1, m.current r script, x.2⟩ := by
  unfold current
  rw [List.foldl_concat]

theorem calls_concat (x : Verb × World σ) :
    m.calls r (script ++ [x]) = m.calls r script ++ [⟨x.1, m.current r script, x.2⟩] := by
  induction script generalizing r with
  | nil => rfl
  | cons y script ih => exact congrArg (_ :: ·) ih

theorem failures_concat_of_syncs (h : m.Syncs c) : m.failures (cs ++ [c]) = 0 := by
  unfold failures
  rw [List.rtakeWhile_concat_neg _ _ _ (by simpa using h)]
  rfl

open Classical in
theorem failures_concat_of_not_syncs (h : ¬ m.Syncs c) :
    m.failures (cs ++ [c]) = m.failures cs + if m.Fails c then 1 else 0 := by
  unfold failures
  rw [List.rtakeWhile_concat_pos _ _ _ (by simpa using h), List.countP_append,
    List.countP_singleton]
  simp only [decide_eq_true_eq]

open Classical in
/-- **The count of failures.** After any run of calls, with whatever replies and refusals, it is the
number of calls that recorded a failure since an observation last found the object up to date; if
none did, it is their number since the start, added to the count at the start. A call that failed
or reported absence has changed nothing, and after any other there is an error exactly if it
recorded a failure. -/
theorem failed_of_calls (m : Manager σ) (r : Resource) (script : List (Verb × World σ)) :
    (m.current r script).status.failed =
        (if ∃ c ∈ m.calls r script, m.Syncs c then 0 else r.status.failed) +
          m.failures (m.calls r script) ∧
      ∀ c ∈ m.calls r script, (¬ m.Records c → m.left c = c.resource) ∧
        (m.Records c → ((m.left c).status.error ≠ [] ↔ m.Fails c)) := by
  refine ⟨?_, fun c _ => ⟨(m.accounts c).unchanged, (m.accounts c).error⟩⟩
  -- from the end of the run: the last call clears the count or adds to it
  induction script using List.reverseRecOn with
  | nil => exact (Int.add_zero _).symm
  | append_singleton script x ih =>
    rw [current_concat, calls_concat]
    generalize hc : (⟨x.1, m.current r script, x.2⟩ : Call σ) = c
    have hresource : c.resource = m.current r script := hc ▸ rfl
    obtain ⟨hfailed, -, -, hsynced⟩ := m.accounts c
    rw [hfailed, hresource]
    by_cases hsync : m.Syncs c
    · have hany : ∃ d ∈ m.calls r script ++ [c], m.Syncs d := ⟨c, by simp, hsync⟩
      rw [failures_concat_of_syncs hsync, if_pos hsync, if_pos hany, if_neg (hsynced hsync)]
      rfl
    · have hany : (∃ d ∈ m.calls r script ++ [c], m.Syncs d) ↔
          ∃ d ∈ m.calls r script, m.Syncs d := by
        simp [or_and_right, exists_or, hsync]
      rw [failures_concat_of_not_syncs hsync, if_neg hsync, ih]
      simp only [hany]
      rw [Int.natCast_add, Int.add_assoc]
      by_cases hfails : m.Fails c
      · rw [if_pos hfails, if_pos hfails]
        rfl
      · rw [if_neg hfails, if_neg hfails]
        rfl

/-- An observation of the page loses the transport, and an update of it is answered with an error. -/
def outage : List (Verb × World Nat) :=
  [(.observe, .replying [.failed "down"]), (.update, .replying [.response 503 "busy" []])]

/-- The law at two failures of different kinds: both are counted. -/
theorem failures_of_outage :
    accepting.failures (accepting.calls (.page (.ofPage .get 200 "x")) outage) = 2 := by
  have hfailed : (accepting.current (.page (.ofPage .get 200 "x")) outage).status.failed = 2 := by
    cbv
  have hstart : (Resource.page (.ofPage .get 200 "x")).status.failed = 0 := rfl
  have hlaw := (failed_of_calls accepting (.page (.ofPage .get 200 "x")) outage).1
  rw [hfailed, hstart, ite_self] at hlaw
  omega

end Manager

end DesiredState
