import DesiredState.CommandLine.Run
import DesiredState.Proofs.Json.Decoded
import DesiredState.Proofs.Lifecycle.Failures
import DesiredState.Proofs.Lifecycle.Saves
import DesiredState.Proofs.Resource.Document

/-!
# Failures and summaries of commands

What comes of a command that is carried out. Its failures are reported whenever the transport
reports its own, and its summary is one JSON object, if the whole numbers in it can be written out.
They can be in a resource that was saved; so a summary that cannot be printed is about a resource
that was not.

* `Command.isReported_of_carryOut`: **the failure of a command is reported.**
* `Command.keeps_of_carryOut`: the resource of a summary was saved, or nothing was found.
* `Summary.Tells.decode_printed`: **a summary is printed as one JSON object.**
-/

namespace DesiredState

/-! ### The verbs -/

theorem ExecutionFault.isReported_of_isDeclared {e : Failure} (h : e.isDeclared = true) :
    (ExecutionFault.verb e).isReported = true := by
  cases e <;> first | rfl | cases h

theorem Resource.FailsToRender.isReported {r : Resource} {method : Method} {e : Failure}
    (h : r.FailsToRender method e) : (ExecutionFault.verb e).isReported = true := by
  obtain ⟨fault, -, rfl⟩ := h
  rfl

theorem Resource.Breaks.isReported {σ : Type} {r : Resource} {method : Method} {w : World σ}
    {e : Failure} (h : r.Breaks method w e) : (ExecutionFault.verb e).isReported = true := by
  rcases h with h | ⟨q, fault, -, -, -, rfl⟩
  · exact h.isReported
  · rfl

namespace Manager

variable {σ : Type} {m : Manager σ} {r : Resource} {w : World σ} {e : Failure}

theorem isReported_of_observe (hw : w.Reports) (h : (m.observe r w).1 = .error e) :
    (ExecutionFault.verb e).isReported = true := by
  cases hdeclared : e.isDeclared with
  | true => exact ExecutionFault.isReported_of_isDeclared hdeclared
  | false =>
    rcases ((observe_eq_error_iff_breaks hw hdeclared).1 h).2 with hget | ⟨-, hput⟩
    · exact hget.isReported
    · exact hput.isReported

/-- A pass fails with its observation or with the request after it. -/
theorem isReported_of_reconcile {deleting : Bool} (hw : w.Reports)
    (h : (m.reconcile r deleting w).1 = .error e) : (ExecutionFault.verb e).isReported = true := by
  rcases m.reconcile_eq_error_iff r w deleting |>.1 h with hobserve | ⟨found, method, -, -, hdeploy⟩
  · exact isReported_of_observe hw hobserve
  cases hdeclared : e.isDeclared with
  | true => exact ExecutionFault.isReported_of_isDeclared hdeclared
  | false =>
    have hw' : (m.observe r w).2.Reports := hw.of_carries (m.carries_observe r w)
    exact ((deploy_eq_error_iff_breaks hw' hdeclared).1 hdeploy).isReported

/-- Observing saves what it finds, or it finds nothing. -/
theorem keeps_of_found {found : Finding} (h : (m.observe r w).1 = .ok found) :
    (found.present = true ∧ m.store.Keeps w [found.resource] (m.observe r w).2) ∨
      (found.present = false ∧ r.decision m.observer.mode w.answer = .error .objectNotFound ∧
        m.store.Keeps w [] (m.observe r w).2 ∧ found.resource = r) := by
  have hkeeps := m.savesFound r w
  have hcases := finding_cases h
  unfold SavesFound at hkeeps
  generalize m.observe r w = seen at h hkeeps
  obtain ⟨result, w'⟩ := seen
  cases h
  rcases hcases with ⟨hnone, rfl⟩ | ⟨o, -, rfl⟩
  · exact .inr ⟨rfl, hnone, hkeeps.1, rfl⟩
  · exact .inl ⟨rfl, hkeeps.1⟩

/-- A pass saves what it returns, or there is nothing to delete. -/
theorem keeps_of_reconcile {deleting : Bool} {outcome : Outcome} {r' : Resource}
    (h : (m.reconcile r deleting w).1 = .ok (outcome, r')) :
    (∃ saves, m.store.Keeps w saves (m.reconcile r deleting w).2 ∧ r' ∈ saves) ∨
      (deleting = true ∧ r.decision m.observer.mode w.answer = .error .objectNotFound ∧
        r' = r) := by
  have hobserve := @keeps_of_found σ m r w
  rw [reconcile_eq] at h ⊢
  generalize m.observe r w = seen at h hobserve ⊢
  obtain ⟨result, w'⟩ := seen
  cases result with
  | error e => cases h
  | ok found =>
    dsimp only at h hobserve ⊢
    have hfound := hobserve rfl
    cases haction : found.action deleting with
    | none =>
      rw [haction] at h
      cases h
      rcases hfound with ⟨-, hkeeps⟩ | ⟨habsent, hnone, -, hr⟩
      · exact .inl ⟨_, hkeeps, List.mem_singleton.2 rfl⟩
      · refine .inr ⟨?_, hnone, hr⟩
        cases deleting with
        | true => rfl
        | false => simp [Finding.action, habsent] at haction
    | some method =>
      rw [haction] at h
      dsimp only at h ⊢
      have hdeploy := m.savesReturned found.resource w' method
      unfold SavesReturned at hdeploy
      generalize m.deploy method found.resource w' = done at h hdeploy ⊢
      obtain ⟨result, w''⟩ := done
      cases result with
      | error e => cases h
      | ok kept =>
        cases h
        rcases hfound with ⟨-, hkeeps⟩ | ⟨-, -, hkeeps, -⟩
        all_goals
          exact .inl ⟨_, hkeeps.trans hdeploy.1, List.mem_append_right _ (List.mem_singleton.2 rfl)⟩

end Manager

namespace Command

variable {σ : Type} {c : Command} {m : Manager σ} {r : Resource} {w w' : World σ} {e : Failure}
  {s : Summary}

/-- **With a transport that reports its failures, the failure of a command is reported.** -/
theorem isReported_of_carryOut (hw : w.Reports) (h : (c.carryOut m r w).1 = .error e) :
    (ExecutionFault.verb e).isReported = true := by
  unfold carryOut at h
  cases c with
  | observe =>
    have hobserve := m.isReported_of_observe (r := r) (e := e) hw
    dsimp only at h
    generalize m.observe r w = seen at h hobserve
    obtain ⟨result, w'⟩ := seen
    cases result <;> cases h
    exact hobserve rfl
  | reconcile | delete =>
    dsimp only at h
    generalize decide (_ = Command.delete) = deleting at h
    have hreconcile : (m.reconcile r deleting w).1 = .error e → _ := m.isReported_of_reconcile hw
    generalize m.reconcile r deleting w = done at h hreconcile
    obtain ⟨result, w'⟩ := done
    cases result <;> cases h
    exact hreconcile rfl

/-- A command saves the resource that its summary is about, or it finds nothing and was not asked
to make it. -/
theorem keeps_of_carryOut (h : (c.carryOut m r w).1 = .ok s) :
    (∃ saves, m.store.Keeps w saves (c.carryOut m r w).2 ∧ s.resource ∈ saves) ∨
      (c ≠ .reconcile ∧ r.decision m.observer.mode w.answer = .error .objectNotFound ∧
        s.resource = r) := by
  unfold carryOut at h ⊢
  cases c with
  | observe =>
    have hobserve := @Manager.keeps_of_found σ m r w
    dsimp only at h ⊢
    generalize m.observe r w = seen at h hobserve ⊢
    obtain ⟨result, w'⟩ := seen
    cases result with
    | error e => cases h
    | ok found =>
      cases h
      rcases hobserve rfl with ⟨-, hkeeps⟩ | ⟨-, hnone, -, hr⟩
      · exact .inl ⟨_, hkeeps, List.mem_singleton.2 rfl⟩
      · exact .inr ⟨nofun, hnone, hr⟩
  | reconcile | delete =>
    dsimp only at h ⊢
    generalize hdeleting : decide (_ = Command.delete) = deleting at h ⊢
    have hreconcile := @Manager.keeps_of_reconcile σ m r w deleting
    generalize m.reconcile r deleting w = done at h hreconcile ⊢
    obtain ⟨result, w'⟩ := done
    cases result with
    | error e => cases h
    | ok pair =>
      cases h
      refine (hreconcile rfl).imp_right fun ⟨hdelete, hnone, hr⟩ => ⟨fun hcommand => ?_, hnone, hr⟩
      have htrue := of_decide_eq_true (hdeleting.trans hdelete)
      cases hcommand.symm.trans htrue

/-- A command that finds nothing and was not asked to make it tells of the resource as it was. -/
theorem carryOut_of_absent (hc : c ≠ .reconcile)
    (h : r.decision m.observer.mode w.answer = .error .objectNotFound) :
    ∃ s, (c.carryOut m r w).1 = .ok s ∧ s.resource = r := by
  have hobserve : (m.observe r w).1 = .ok ⟨false, false, r, .none⟩ := by
    rcases m.observe_cases r w with ⟨-, hfound⟩ | ⟨e, he, hne, -⟩ | ⟨o, ho, -⟩
    · exact hfound
    · cases h.symm.trans he
      exact absurd rfl hne
    · cases h.symm.trans ho
  unfold carryOut
  cases c with
  | observe =>
    dsimp only
    generalize m.observe r w = seen at hobserve
    obtain ⟨result, w'⟩ := seen
    cases hobserve
    exact ⟨_, rfl, rfl⟩
  | reconcile => exact absurd rfl hc
  | delete =>
    have hreconcile := m.reconcile_of_action_none r w true hobserve rfl
    have htrue : decide (Command.delete = Command.delete) = true := rfl
    dsimp only
    rw [htrue]
    generalize m.reconcile r true w = done at hreconcile ⊢
    obtain ⟨result, w'⟩ := done
    cases hreconcile
    exact ⟨_, rfl, rfl⟩

end Command

/-! ### Summaries -/

/-- What a command tells: whether the object exists and is up to date, or what was done. -/
inductive Summary.Tells (c : Command) : Summary → Prop
  | seen (r : Resource) (present upToDate : Bool) :
    Tells c ⟨c, r, [("exists", .bool present), ("up_to_date", .bool upToDate)]⟩
  | done (r : Resource) (outcome : Outcome) : Tells c ⟨c, r, [("outcome", .str outcome.name)]⟩

theorem Command.tells_of_carryOut {σ : Type} {c : Command} {m : Manager σ} {r : Resource}
    {w : World σ} {s : Summary} (h : (c.carryOut m r w).1 = .ok s) : s.Tells c := by
  unfold carryOut at h
  cases c with
  | observe =>
    dsimp only at h
    generalize m.observe r w = seen at h
    obtain ⟨result, w'⟩ := seen
    cases result <;> cases h
    exact .seen _ _ _
  | reconcile | delete =>
    dsimp only at h
    generalize m.reconcile r _ w = done at h
    obtain ⟨result, w'⟩ := done
    cases result <;> cases h
    exact .done _ _

namespace Summary

variable {s : Summary} {c : Command}

/-- The whole numbers of its resource are the only scalars of a summary that may not be written. -/
theorem Tells.isWritable_iff (h : s.Tells c) :
    Json.isWritable s.toJson = true ↔ s.resource.status.IsWritable := by
  have hnumbers : ∀ t : Status, t.IsWritable ↔
      Numeral.isWritable t.response.status = true ∧ Numeral.isWritable t.failed = true :=
    fun t => ⟨fun h => ⟨h.code, h.failed⟩, fun h => ⟨h.1, h.2⟩⟩
  rw [hnumbers]
  cases h <;> simp [toJson, Json.isWritable, Json.isWritableMembers]

/-- The summary as it is read again, with each pair of surrogates as one code point. -/
def joined (s : Summary) : Summary :=
  let status := { s.resource.status with error := Json.joined s.resource.status.error }
  { s with resource := { s.resource with name := Json.joined s.resource.name, status } }

theorem Command.isUnpaired_name (c : Command) : c.name.IsUnpaired :=
  Text.isUnpaired_of_noSurrogates (by cases c <;> decide)

theorem Outcome.isUnpaired_name (o : Outcome) : o.name.IsUnpaired :=
  Text.isUnpaired_of_noSurrogates (by cases o <;> decide)

theorem Tells.isFaithful_joined (h : s.Tells c) (hw : s.resource.status.IsWritable) :
    s.joined.toJson.IsFaithful := by
  have hname := Json.isUnpaired_joined s.resource.name
  have herror := Json.isUnpaired_joined s.resource.status.error
  cases h with
  | seen r present upToDate =>
    have hkeys : (["command", "resource", "status_code", "failed", "error", "exists",
      "up_to_date"] : List Text).Nodup := by decide
    exact ⟨hkeys, by decide, Command.isUnpaired_name c, by decide, hname, by decide, hw.code,
      by decide, hw.failed, by decide, herror, by decide, trivial, by decide, trivial, trivial⟩
  | done r outcome =>
    have hkeys : (["command", "resource", "status_code", "failed", "error",
      "outcome"] : List Text).Nodup := by decide
    exact ⟨hkeys, by decide, Command.isUnpaired_name c, by decide, hname, by decide, hw.code,
      by decide, hw.failed, by decide, herror, by decide, Outcome.isUnpaired_name outcome, trivial⟩

/-- **A summary is printed as one JSON object.** -/
theorem Tells.decode_printed (h : s.Tells c) (hw : s.resource.status.IsWritable) :
    Json.decode (Json.encodeIndented 2 0 s.toJson ++ "\n") = .ok s.joined.toJson := by
  have hprinted : Json.encodeIndented 2 0 s.joined.toJson = Json.encodeIndented 2 0 s.toJson := by
    cases h <;>
    simp only [toJson, joined, Json.encodeIndented, Json.encodeIndentedMembers, Json.encodeScalar,
      Json.encodeString_joined, List.cons_append, List.nil_append, List.isEmpty_cons,
      Bool.false_eq_true, if_false]
  have hdepth : s.joined.toJson.depth ≤ Json.maxOpen := by
    cases h <;> exact of_decide_eq_true rfl
  have hwritten := @Json.written_encodeIndented 2 s.joined.toJson 0 Json.maxOpen
    (h.isFaithful_joined hw) hdepth
  rw [hprinted] at hwritten
  have hbreak : Json.IsSpace "\n" := List.forall_mem_singleton.2 rfl
  have hdecode := Json.decodeWith_of_written .refused hwritten (List.forall_mem_nil _) hbreak
  rw [List.nil_append] at hdecode
  refine Json.decode_eq_ok_iff.2 ⟨hdecode, ?_⟩
  cases h <;> exact of_decide_eq_true rfl

end Summary

end DesiredState
