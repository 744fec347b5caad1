import DesiredState.Proofs.Lifecycle.Run
import DesiredState.Proofs.Resource.Resolution
import DesiredState.Proofs.Template.Decomposition
import DesiredState.Proofs.Template.Segments

/-!
# Failures outside the declared family

The verbs promise to fail in declared ways only. With a transport that reports its failures, two
kinds of fault escape this promise: a fault of a numeral while a template is rendered, and a body
that has no encoding. Here is exactly when each verb fails in such a way.

* `Resource.Breaks`: making the request of a method fails outside the family.
* `Resource.IsPlain`: a condition on templates, status and body that excludes it.
* `Manager.undeclared_failure_iff`: **a verb fails outside the family if and only if a request that
  it makes breaks.**
* `Manager.longIndex_escapes`: an index with too many digits is enough.
-/

namespace DesiredState

variable {σ : Type}

/-- A response, or a failure that the transport reports as one. -/
def Reply.isReported : Reply → Bool
  | .response .. | .failed _ => true
  | .broken _ | .interrupted => false

namespace World

variable {w w' : World σ} {q : Request} {t : Traffic} {e : Failure}

/-- The transport answers every request with a response or reports that it failed. -/
def Reports (w : World σ) : Prop := ∀ a ∈ w.arrivals, a.reply.isReported = true

theorem Reports.replyAt (h : w.Reports) (n : Nat) : (w.replyAt n).isReported = true := by
  unfold World.replyAt
  rw [List.getD_eq_getElem?_getD]
  cases ha : w.arrivals[n]? with
  | none => rfl
  | some a => exact h a (List.mem_of_getElem? ha)

/-- What is left of the replies after a step is reported as well. -/
theorem Reports.of_carries (h : w.Reports) (hc : w.Carries t w') : w'.Reports := by
  intro a ha
  rw [hc.arrivals] at ha
  exact h a (List.mem_of_mem_drop ha)

/-- The only undeclared failure that a request comes to is that of its encoding. -/
theorem answer_eq_undeclared_iff (h : w.Reports) (he : e.isDeclared = false) :
    w.answer q = .error e ↔
      w.event ≠ .set ∧ ∃ fault, Text.utf8Fault? q.body = some fault ∧ e = .encoding fault := by
  have hreply := h.replyAt 0
  unfold answer
  by_cases hw : w.event = .set
  · rw [if_pos hw]
    constructor
    · intro heq
      cases heq
      cases he
    · exact fun hne => absurd hw hne.1
  rw [if_neg hw]
  cases hf : Text.utf8Fault? q.body with
  | some fault =>
    simp only [Except.error.injEq, Option.some.injEq, exists_eq_left']
    exact ⟨fun heq => ⟨hw, heq.symm⟩, fun heq => heq.2.symm⟩
  | none =>
    refine ⟨fun heq => ?_, fun hsome => ?_⟩
    · cases hr : w.replyAt 0 with
      | response status body headers => simp [hr] at heq
      | failed message =>
        simp only [hr, Except.error.injEq] at heq
        subst heq
        cases he
      | broken | interrupted => simp [hr, Reply.isReported] at hreply
    · obtain ⟨-, fault, hfault, -⟩ := hsome
      cases hfault

end World

namespace Resource

variable {r : Resource} {method : Method} {w : World σ} {e : Failure} {mode : ArrayMode}
  {answer : Request → Except Failure Response} {exchange : Exchange} {transportError : Option Text}

/-- Rendering the templates of a method fails with a fault of a numeral. -/
def FailsToRender (r : Resource) (method : Method) (e : Failure) : Prop :=
  ∃ fault, r.resolve method = .error (.template fault) ∧ e = .template fault

/-- Making the request of a method fails outside the declared family: its templates do not render,
or it goes out with a body that has no encoding. -/
def Breaks (r : Resource) (method : Method) (w : World σ) (e : Failure) : Prop :=
  r.FailsToRender method e ∨
    ∃ q fault, r.resolve method = .ok q ∧ w.event ≠ .set ∧
      Text.utf8Fault? q.body = some fault ∧ e = .encoding fault

/-- The indexes in the templates of a method can be read, the recorded status code can be written,
and the body of the request has an encoding. -/
structure IsPlain (r : Resource) (method : Method) : Prop where
  indexes : ∀ m, r.mapping? method = some m → ∀ t ∈ r.templates m, Template.IsShort t
  status : Numeral.isWritable r.status.response.status = true
  body : ∀ q, r.resolve method = .ok q → q.body.NoSurrogates

theorem resolve_eq_undeclared_iff (he : e.isDeclared = false) :
    r.resolve method = .error e ↔ r.FailsToRender method e := by
  refine ⟨fun h => ?_, fun ⟨fault, h, heq⟩ => heq ▸ h⟩
  rcases resolve_error_cases h with ⟨-, rfl⟩ | ⟨m, -, ⟨unresolved, rfl⟩ | ⟨fault, -, rfl⟩⟩
  · cases he
  · cases he
  · exact ⟨fault, h, rfl⟩

/-- A request breaks exactly if it does not render or comes to an undeclared failure. -/
theorem breaks_iff_answer (hw : w.Reports) (he : e.isDeclared = false) :
    r.Breaks method w e ↔ r.FailsToRender method e ∨
      ∃ q, r.resolve method = .ok q ∧ w.answer (q.toRequest method) = .error e := by
  unfold Breaks
  simp only [World.answer_eq_undeclared_iff hw he]
  refine or_congr Iff.rfl ⟨?_, ?_⟩
  · rintro ⟨q, fault, hq, hne, hfault, heq⟩
    exact ⟨q, hq, hne, fault, hfault, heq⟩
  · rintro ⟨q, hq, hne, fault, hfault, heq⟩
    exact ⟨q, fault, hq, hne, hfault, heq⟩

/-- A plain request does not break. -/
theorem IsPlain.not_breaks (h : r.IsPlain method) : ¬ r.Breaks method w e := by
  rintro (⟨fault, hresolve, -⟩ | ⟨q, fault, hq, -, hfault, -⟩)
  · rcases resolve_error_cases hresolve with ⟨-, heq⟩ | ⟨m, hm, ⟨unresolved, heq⟩ | ⟨f, hf, -⟩⟩
    · cases heq
    · cases heq
    · obtain ⟨rendered, hrendered⟩ := renderMapping_of_isShort h.status (h.indexes m hm)
      rw [hf] at hrendered
      cases hrendered
  · have hnone := Text.utf8Fault?_eq_none_iff.2 (h.body q hq)
    rw [hfault] at hnone
    cases hnone

/-- The GET request leaves something to compare: a response other than 404, or a failure of the
transport. -/
def LeavesSomething (r : Resource) (answer : Request → Except Failure Response) : Prop :=
  ∃ get, r.resolve .get = .ok get ∧
    ((∃ message, answer (get.toRequest .get) = .error (.transport message)) ∨
      ∃ response, answer (get.toRequest .get) = .ok response ∧
        response.status ≠ StatusCode.notFound)

theorem judged_eq_undeclared_iff (he : e.isDeclared = false) :
    r.judged mode exchange transportError = .error e ↔ r.FailsToRender .put e := by
  rw [← resolve_eq_undeclared_iff he]
  unfold judged
  cases r.resolve .put with
  | error e' => simp only [Except.error.injEq]
  | ok put =>
    refine ⟨fun h => ?_, nofun⟩
    dsimp only at h
    split at h
    · cases h
      cases he
    · split at h
      · cases h
        cases he
      · cases h

/-- The decision of an observation fails outside the family if the GET request does, or if it leaves
something to compare and the desired state does not render. -/
theorem decision_eq_undeclared_iff (he : e.isDeclared = false) :
    r.decision mode answer = .error e ↔
      ¬ r.NothingRecorded ∧
        (r.FailsToRender .get e ∨
          (∃ get, r.resolve .get = .ok get ∧ answer (get.toRequest .get) = .error e) ∨
          (r.LeavesSomething answer ∧ r.FailsToRender .put e)) := by
  have hget : r.resolve .get = .error e ↔ r.FailsToRender .get e := resolve_eq_undeclared_iff he
  rw [← hget]
  unfold decision LeavesSomething
  by_cases hr : r.NothingRecorded
  · rw [if_pos hr]
    refine ⟨fun h => ?_, fun h => absurd hr h.1⟩
    cases h
    cases he
  rw [if_neg hr]
  simp only [hr, not_false_eq_true, true_and]
  cases r.resolve .get with
  | error e' => simp
  | ok get =>
    simp only [Except.ok.injEq, exists_eq_left', reduceCtorEq, false_or]
    generalize answer (get.toRequest .get) = a
    rcases a with e' | response
    · cases e' with
      | transport message =>
        simp only [judged_eq_undeclared_iff he, Except.error.injEq]
        constructor
        · exact fun h => .inr ⟨.inl ⟨message, rfl⟩, h⟩
        · rintro (rfl | ⟨-, h⟩)
          · cases he
          · exact h
      | _ => simp
    · by_cases h404 : response.status = StatusCode.notFound
      · simp only [h404, if_true, reduceCtorEq, exists_false, Except.ok.injEq, exists_eq_left',
          ne_eq, not_true, or_self, false_and, iff_false, Except.error.injEq]
        rintro rfl
        cases he
      · simp [h404, judged_eq_undeclared_iff he]

end Resource

namespace Manager

variable {m : Manager σ} {r : Resource} {w : World σ} {method : Method} {deleting : Bool}
  {e : Failure}

theorem observe_eq_undeclared_iff (he : e.isDeclared = false) :
    (m.observe r w).1 = .error e ↔ r.decision m.observer.mode w.answer = .error e := by
  rcases m.observe_cases r w with ⟨hd, hf⟩ | ⟨e', hd, -, hf⟩ | ⟨o, hd, hf | ⟨cause, hf⟩⟩
  · rw [hd, hf]
    refine ⟨nofun, fun h => ?_⟩
    cases h
    cases he
  · rw [hd, hf]
    simp only [Except.error.injEq]
  · rw [hd, hf]
    exact ⟨nofun, nofun⟩
  · rw [hd, hf]
    refine ⟨fun h => ?_, nofun⟩
    cases h
    cases he

/-- The request of a verb fails outside the family if and only if it does not resolve so or comes
to such a failure. -/
theorem deploy_eq_undeclared_iff (he : e.isDeclared = false) :
    (m.deploy method r w).1 = .error e ↔
      r.resolve method = .error e ∨
        ∃ q, r.resolve method = .ok q ∧ w.answer (q.toRequest method) = .error e := by
  unfold deploy Resource.resolveLogged
  cases r.resolve method with
  | error e' => simp
  | ok q =>
    simp only [reduceCtorEq, Except.ok.injEq, exists_eq_left', false_or]
    generalize hw₁ : (w.debug Resource.resolutionLogger (r.resolutionMessage method)).debug logger
      (method.name ++ " " ++ q.url ++ " for " ++ r.name) = w₁
    have hsend := m.observer.client.send_result (q.toRequest method) r.spec.skipTlsVerify w₁
    have hanswer : w₁.answer (q.toRequest method) = w.answer (q.toRequest method) := by
      subst hw₁
      rfl
    rw [hanswer] at hsend
    generalize m.observer.client.send (q.toRequest method) r.spec.skipTlsVerify w₁ = sent
      at hsend ⊢
    obtain ⟨result, w'⟩ := sent
    dsimp only at hsend
    subst hsend
    cases w.answer (q.toRequest method) with
    | error e' =>
      cases e' with
      | transport message =>
        simp only [Except.map, Except.error.injEq]
        constructor <;> rintro rfl <;> cases he
      | _ => simp only [Except.map, Except.error.injEq]
    | ok response =>
      -- the response is recorded, and a store that refuses it is a declared failure
      simp only [Except.map, reduceCtorEq, iff_false]
      rcases m.store.record_cases r ⟨q.toRequest method, response⟩ none w' with hrec | ⟨c, hrec⟩
      · rw [hrec]
        exact nofun
      · rw [hrec]
        intro h
        cases h
        cases he

theorem deploy_eq_error_iff_breaks (hw : w.Reports) (he : e.isDeclared = false) :
    (m.deploy method r w).1 = .error e ↔ r.Breaks method w e := by
  rw [deploy_eq_undeclared_iff he, Resource.resolve_eq_undeclared_iff he,
    Resource.breaks_iff_answer hw he]

theorem observe_eq_error_iff_breaks (hw : w.Reports) (he : e.isDeclared = false) :
    (m.observe r w).1 = .error e ↔
      ¬ r.NothingRecorded ∧ (r.Breaks .get w e ∨
        (r.LeavesSomething w.answer ∧ r.FailsToRender .put e)) := by
  rw [observe_eq_undeclared_iff he, Resource.decision_eq_undeclared_iff he,
    Resource.breaks_iff_answer hw he, or_assoc]

/-- **When a verb fails outside the declared family.** With a transport that reports its failures,
create, update and delete do so exactly if their request breaks; observing exactly if the gate lets
the resource through and the GET request breaks, or leaves something to compare with a desired state
that does not render; a pass exactly if its observation does or the request after it breaks. No
plain request breaks, so that with plain requests every failure is declared. -/
theorem undeclared_failure_iff (m : Manager σ) (r : Resource) (w : World σ) (e : Failure)
    (hw : w.Reports) (he : e.isDeclared = false) :
    ((m.observe r w).1 = .error e ↔ ¬ r.NothingRecorded ∧ (r.Breaks .get w e ∨
      (r.LeavesSomething w.answer ∧ r.FailsToRender .put e))) ∧
    ((m.create r w).1 = .error e ↔ r.Breaks .post w e) ∧
    ((m.update r w).1 = .error e ↔ r.Breaks .put w e) ∧
    ((m.delete r w).1 = .error e ↔ r.Breaks .delete w e) ∧
    (∀ deleting, (m.reconcile r deleting w).1 = .error e ↔ (m.observe r w).1 = .error e ∨
      ∃ found method, (m.observe r w).1 = .ok found ∧ found.action deleting = some method ∧
        found.resource.Breaks method (m.observe r w).2 e) ∧
    ∀ (r' : Resource) (method : Method) (w' : World σ),
      r'.IsPlain method → ¬ r'.Breaks method w' e := by
  refine ⟨observe_eq_error_iff_breaks hw he, deploy_eq_error_iff_breaks hw he,
    deploy_eq_error_iff_breaks hw he, deploy_eq_error_iff_breaks hw he, fun deleting => ?_,
    fun r' method w' h => h.not_breaks⟩
  -- the replies that the observation leaves are reported as well
  have hw' : (m.observe r w).2.Reports := hw.of_carries (m.carries_observe r w)
  rw [reconcile_eq_error_iff]
  simp only [deploy_eq_error_iff_breaks hw' he]

/-- The page with a URL of its own for POST requests. -/
def linkedPage (url body : Text) : Resource where
  name := "page"
  spec := ⟨⟨"u", []⟩, [(.post, ⟨.post, url, body, []⟩)], [], false⟩
  status := .empty

/-- A body of one surrogate has no encoding: the POST request breaks, and creating fails outside
the family. -/
theorem create_surrogate :
    (World.replying []).Reports ∧
      (Failure.encoding ⟨0, 0, CodePoint.ofNat 0xD800⟩).isDeclared = false ∧
      (accepting.create (linkedPage "u" [CodePoint.ofNat 0xD800]) (World.replying [])).1 =
        .error (.encoding ⟨0, 0, CodePoint.ofNat 0xD800⟩) := by
  have hreports : (World.replying []).Reports := by
    intro a ha
    cases ha
  have hlaw := undeclared_failure_iff accepting (linkedPage "u" [CodePoint.ofNat 0xD800])
    (World.replying []) (.encoding ⟨0, 0, CodePoint.ofNat 0xD800⟩) hreports rfl
  refine ⟨hreports, rfl, hlaw.2.1.2 (.inr ⟨⟨"u", [CodePoint.ofNat 0xD800], []⟩, _, ?_, ?_, ?_,
    rfl⟩)⟩
  · cbv
  · intro h
    cases h
  · rfl

/-- The path of an item of the payload's body. -/
def itemPath (digits : Text) : Text := "." ++ ("payload.body[" ++ digits) ++ "]"

theorem scan_itemPath {digits : Text} (hd : ∀ c ∈ digits, c.isDecimal = true) (hne : digits ≠ []) :
    Path.scan (itemPath digits) = ([.key "payload", .key "body", .index digits], []) := by
  have hpayload : Path.Segment.Begins (.key "payload") (itemPath digits)
      (".body" ++ ("[" ++ digits ++ "]")) := Path.begins_of_scanSegment? rfl
  have hbody : Path.Segment.Begins (.key "body") (".body" ++ ("[" ++ digits ++ "]"))
      ("[" ++ digits ++ "]") := Path.begins_of_scanSegment? rfl
  have hindex : Path.Segment.Begins (.index digits) ("[" ++ digits ++ "]") [] := by
    rw [← List.append_nil ("[" ++ digits ++ "]" : Text)]
    exact .index hne hd
  exact Path.spells_iff_scan.1 (.cons hpayload (.cons hbody (.cons hindex .nil)))

theorem lookup_itemPath {digits : Text} (r : Resource) (hd : ∀ c ∈ digits, c.isDecimal = true)
    (hl : Numeral.maxDigits < digits.length) :
    Path.lookup r.context (itemPath digits) = .error ⟨digits.length⟩ := by
  have hne : digits ≠ [] := List.ne_nil_of_length_pos (Nat.zero_lt_of_lt hl)
  have hpayload : Path.step r.context (.key "payload") =
      .ok (some (.obj [("base_url", .str r.spec.payload.baseUrl),
        ("body", Json.ofBody r.spec.payload.body)])) := rfl
  have hbody : Path.step (.obj [("base_url", .str r.spec.payload.baseUrl),
      ("body", Json.ofBody r.spec.payload.body)]) (.key "body") =
      .ok (some (Json.ofBody r.spec.payload.body)) := rfl
  have hindex := Path.step_longIndex (Json.ofBody r.spec.payload.body) hl
  unfold Path.lookup
  rw [if_neg nofun, scan_itemPath hd hne]
  simp only [Path.walk, hpayload, hbody, hindex]

/-- No item has an index with so many digits, and still the request is not just invalid. -/
theorem create_longIndex {digits : Text} (hd : ∀ c ∈ digits, c.isAsciiDigit = true)
    (hl : Numeral.maxDigits < digits.length) :
    (accepting.create (linkedPage ("\x7b\x7b" ++ itemPath digits ++ "\x7d\x7d") [])
      (World.replying [])).1 = .error (.template (.longIndex ⟨digits.length⟩)) := by
  generalize hurl : ("\x7b\x7b" ++ itemPath digits ++ "\x7d\x7d" : Text) = url
  have hbraces : ∀ c ∈ itemPath digits, Template.isBrace c = false := by
    have hdigits : ∀ c ∈ digits, Template.isBrace c = false := by
      intro c hc
      have hdigit := hd c hc
      simp only [CodePoint.isAsciiDigit, Bool.and_eq_true, decide_eq_true_eq] at hdigit
      simp only [Template.isBrace, Bool.or_eq_false_iff, decide_eq_false_iff_not]
      omega
    simp only [itemPath, List.forall_mem_append]
    exact ⟨⟨by decide, by decide, hdigits⟩, by decide⟩
  have hlast : (CodePoint.ofChar ']').isBlank = false := rfl
  have htrim : Text.trim (itemPath digits) = itemPath digits :=
    Text.trimEnd_concat ("." ++ ("payload.body[" ++ digits)) hlast
  have hscan := Template.scanExpression?_append (Template.isExpression_braces rfl hbraces htrim) []
  rw [List.append_nil, hurl] at hscan
  have hlookup := lookup_itemPath (linkedPage url [])
    (fun c hc => CodePoint.isDecimal_of_isAsciiDigit (hd c hc)) hl
  have hrender := Template.render_of_lookup_error hscan hlookup
  have htemplate : (linkedPage url []).urlTemplate ⟨.post, url, [], []⟩ = url := by
    rw [← hurl]
    rfl
  -- the request fails before its body is looked at, for the POST mapping is the one that is found
  refine deploy_eq_undeclared_iff rfl |>.2 (.inl ?_)
  change (linkedPage url []).generate ⟨.post, url, [], []⟩ = _
  unfold Resource.generate Resource.renderMapping
  simp only [htemplate, hrender]

/-- **An index with too many digits escapes.** Creating the page fails outside the declared family
because its URL mentions an item whose index has 4301 digits; a path to a missing item, which is
what it is, should make the request invalid. -/
theorem longIndex_escapes :
    (accepting.create (linkedPage
        ("\x7b\x7b" ++ itemPath (List.replicate 4301 (CodePoint.ofChar '1')) ++ "\x7d\x7d") [])
        (World.replying [])).1 = .error (.template (.longIndex ⟨4301⟩)) ∧
      Failure.isDeclared (.template (.longIndex ⟨4301⟩)) = false := by
  have hd : ∀ c ∈ List.replicate 4301 (CodePoint.ofChar '1'), c.isAsciiDigit = true := by
    intro c hc
    rw [(List.mem_replicate.1 hc).2]
    rfl
  have hlength : (List.replicate 4301 (CodePoint.ofChar '1')).length = 4301 :=
    List.length_replicate
  have hcreate := create_longIndex hd (by rw [hlength]; decide)
  rw [hlength] at hcreate
  exact ⟨hcreate, rfl⟩

end Manager

end DesiredState
