import DesiredState.Proofs.Template.Lookups
import DesiredState.Resource.Resolution
import Mathlib.Logic.Basic

/-!
# How a resolution fails

A mapping that is missing, a path without a value and a blank URL are what the resolution of a
request promises to report. Beside them stand the faults of numerals in templates.

* `Resource.resolve_error_cases`: all failures of a resolution.
* `Resource.templates`, `Resource.paths`: the templates of a request, and the paths in them.
* `Resource.renderMapping_of_isShort`: **the templates render** if their indexes can be read and the
  recorded status code can be written.
* `Resource.unresolved_of_renderMapping`: the paths that a request reports.
* `Resource.resolve_eq_invalidRequest_iff`: **when a request is not valid.**
* `Resource.resolveNamed_eq_resolve`: the name of a method in any case.
-/

namespace DesiredState

theorem Json.isWritable_ofBody (body : Text) : (Json.ofBody body).isWritable = true := by
  unfold Json.ofBody
  split
  · next v hv => exact Json.isWritable_of_decode hv
  · rfl

namespace Resource

variable {r : Resource} {m : Mapping} {method : Method} {name : Text} {q : ResolvedRequest}
  {e : Failure} {context : Json}

/-- What templates see of the payload. -/
def payloadValue (r : Resource) : Json :=
  .obj [("base_url", .str r.spec.payload.baseUrl), ("body", Json.ofBody r.spec.payload.body)]

/-- What templates see of the headers of the last response. -/
def headersValue (r : Resource) : Json :=
  .obj (r.status.response.headers.map fun (name, values) => (name, .arr (values.map .str)))

/-- What templates see of the last response. -/
def responseValue (r : Resource) : Json :=
  .obj [
    ("status_code", .int r.status.response.status),
    ("body", Json.ofBody r.status.response.body),
    ("headers", r.headersValue)]

theorem context_eq (r : Resource) :
    r.context = .obj [("payload", r.payloadValue), ("response", r.responseValue)] := rfl

theorem isWritable_payloadValue (r : Resource) : r.payloadValue.isWritable = true := by
  refine Json.isWritableMembers_iff.2 (List.forall_mem_cons.2 ⟨rfl, ?_⟩)
  exact List.forall_mem_singleton.2 (Json.isWritable_ofBody _)

theorem isWritable_headersValue (r : Resource) : r.headersValue.isWritable = true := by
  refine Json.isWritableMembers_iff.2 fun e he => ?_
  obtain ⟨header, -, rfl⟩ := List.mem_map.1 he
  refine Json.isWritableItems_iff.2 fun v hv => ?_
  obtain ⟨s, -, rfl⟩ := List.mem_map.1 hv
  rfl

/-- Of all numbers that templates see, only the status code need not have been read from a text. -/
theorem isWritable_context (h : Numeral.isWritable r.status.response.status = true) :
    r.context.isWritable = true := by
  have hresponse : r.responseValue.isWritable = true := by
    refine Json.isWritableMembers_iff.2 (List.forall_mem_cons.2 ⟨h, ?_⟩)
    refine List.forall_mem_cons.2 ⟨Json.isWritable_ofBody _, ?_⟩
    exact List.forall_mem_singleton.2 r.isWritable_headersValue
  refine Json.isWritableMembers_iff.2 (List.forall_mem_cons.2 ⟨r.isWritable_payloadValue, ?_⟩)
  exact List.forall_mem_singleton.2 hresponse

/-- The templates of the request of a mapping: URL, body and header values. -/
def templates (r : Resource) (m : Mapping) : List Text :=
  r.urlTemplate m :: m.body :: (r.effectiveHeaders m).flatMap Prod.snd

/-- The paths in the templates of the request of a mapping. -/
def paths (r : Resource) (m : Mapping) : List Text := (r.templates m).flatMap Template.paths

theorem renderValues_of_isShort (hc : context.isWritable = true) {values : List Text}
    (h : ∀ t ∈ values, Template.IsShort t) : ∃ x, renderValues context values = .ok x := by
  induction values with
  | nil => exact ⟨_, rfl⟩
  | cons v vs ih =>
    obtain ⟨hv, hvs⟩ := List.forall_mem_cons.1 h
    obtain ⟨first, hfirst⟩ := Template.render_of_isShort hc hv
    obtain ⟨rest, hrest⟩ := ih hvs
    unfold renderValues
    rw [hfirst, hrest]
    exact ⟨_, rfl⟩

theorem renderHeaders_of_isShort (hc : context.isWritable = true) {headers : Headers}
    (h : ∀ t ∈ headers.flatMap Prod.snd, Template.IsShort t) :
    ∃ x, renderHeaders context headers = .ok x := by
  induction headers with
  | nil => exact ⟨_, rfl⟩
  | cons header hs ih =>
    obtain ⟨name, values⟩ := header
    rw [List.flatMap_cons] at h
    obtain ⟨first, hfirst⟩ := renderValues_of_isShort hc fun t ht => h t (List.mem_append_left _ ht)
    obtain ⟨rest, hrest⟩ := ih fun t ht => h t (List.mem_append_right _ ht)
    unfold renderHeaders
    rw [hfirst, hrest]
    exact ⟨_, rfl⟩

/-- **The templates of a request render** if their indexes can be read and the recorded status code
can be written. -/
theorem renderMapping_of_isShort (hs : Numeral.isWritable r.status.response.status = true)
    (h : ∀ t ∈ r.templates m, Template.IsShort t) : ∃ x, r.renderMapping m = .ok x := by
  have hc := isWritable_context hs
  obtain ⟨hurl, hrest⟩ := List.forall_mem_cons.1 h
  obtain ⟨hbody, hheaders⟩ := List.forall_mem_cons.1 hrest
  obtain ⟨url, hurl'⟩ := Template.render_of_isShort hc hurl
  obtain ⟨body, hbody'⟩ := Template.render_of_isShort hc hbody
  obtain ⟨headers, hheaders'⟩ := renderHeaders_of_isShort hc hheaders
  unfold renderMapping
  simp only [hurl', hbody', hheaders']
  exact ⟨_, rfl⟩

/-! ### The paths that are reported -/

theorem unresolved_of_renderValues {values texts missing : List Text}
    (h : renderValues context values = .ok (texts, missing)) :
    missing = (values.flatMap Template.paths).filter (Path.isMissing context) := by
  induction values generalizing texts missing with
  | nil =>
    cases h
    rfl
  | cons v vs ih =>
    unfold renderValues at h
    split at h
    · cases h
    next first hfirst =>
    split at h
    · cases h
    next rest missing' hrest =>
    cases h
    rw [Template.unresolved_of_render hfirst, ih hrest, ← List.filter_append, List.flatMap_cons]

theorem unresolved_of_renderHeaders {headers rendered : Headers} {missing : List Text}
    (h : renderHeaders context headers = .ok (rendered, missing)) :
    missing =
      ((headers.flatMap Prod.snd).flatMap Template.paths).filter (Path.isMissing context) := by
  induction headers generalizing rendered missing with
  | nil =>
    cases h
    rfl
  | cons header hs ih =>
    obtain ⟨name, values⟩ := header
    unfold renderHeaders at h
    split at h
    · cases h
    next texts missing' hvalues =>
    split at h
    · cases h
    next rest missing'' hrest =>
    cases h
    rw [unresolved_of_renderValues hvalues, ih hrest, ← List.filter_append, List.flatMap_cons,
      List.flatMap_append]

/-- **The paths that a request reports** are those of its templates that lead nowhere. -/
theorem unresolved_of_renderMapping {q : ResolvedRequest} {unresolved : List Text}
    (h : r.renderMapping m = .ok (q, unresolved)) :
    unresolved = (r.paths m).filter (Path.isMissing r.context) := by
  unfold renderMapping at h
  dsimp only at h
  split at h
  · cases h
  next url hurl =>
  split at h
  · cases h
  next body hbody =>
  split at h
  · cases h
  next headers missing hheaders =>
  cases h
  rw [Template.unresolved_of_render hurl, Template.unresolved_of_render hbody,
    unresolved_of_renderHeaders hheaders, ← List.filter_append, ← List.filter_append, paths,
    templates, List.flatMap_cons, List.flatMap_cons, List.append_assoc]

/-- A mapping makes no valid request now: its templates render, but a path in them leads nowhere or
the URL is blank. -/
def IsUnusable (r : Resource) (m : Mapping) : Prop :=
  ∃ q unresolved, r.renderMapping m = .ok (q, unresolved) ∧
    ((∃ path ∈ r.paths m, Path.lookup r.context path = .ok none) ∨ Text.isBlank q.url = true)

/-- **When a request is not valid.** -/
theorem resolve_eq_invalidRequest_iff :
    (∃ declared unresolved, r.resolve method = .error (.invalidRequest declared unresolved)) ↔
      ∃ m, r.mapping? method = some m ∧ r.IsUnusable m := by
  unfold resolve
  cases hm : r.mapping? method with
  | none => simp
  | some m =>
    simp only [Option.some.injEq, exists_eq_left']
    unfold generate IsUnusable
    cases hrender : r.renderMapping m with
    | error fault => simp
    | ok rendered =>
      obtain ⟨q, unresolved⟩ := rendered
      have hmissing : unresolved ≠ [] ↔
          ∃ path ∈ r.paths m, Path.lookup r.context path = .ok none := by
        rw [unresolved_of_renderMapping hrender, Ne, List.filter_eq_nil_iff]
        simp only [Path.isMissing_iff, not_forall, not_not, exists_prop]
      simp only [Except.ok.injEq, Prod.mk.injEq, and_assoc, exists_and_left, exists_eq_left']
      rw [← hmissing]
      by_cases hinvalid : (!unresolved.isEmpty || Text.isBlank q.url) = true
      · rw [if_pos hinvalid]
        refine iff_of_true ⟨m.method, unresolved, rfl⟩ ?_
        simpa using hinvalid
      · rw [if_neg hinvalid]
        refine iff_of_false nofun ?_
        simpa using hinvalid

/-- **All failures of a resolution**: no mapping, a request that is not valid, or a fault of a
template. -/
theorem resolve_error_cases (h : r.resolve method = .error e) :
    (r.mapping? method = none ∧ e = .mappingNotFound method.name) ∨
    ∃ m, r.mapping? method = some m ∧ ((∃ unresolved, e = .invalidRequest m.method unresolved) ∨
      ∃ fault, r.renderMapping m = .error fault ∧ e = .template fault) := by
  unfold resolve at h
  cases hm : r.mapping? method with
  | none =>
    rw [hm] at h
    cases h
    exact .inl ⟨rfl, rfl⟩
  | some m =>
    rw [hm] at h
    refine .inr ⟨m, rfl, ?_⟩
    unfold generate at h
    cases hrender : r.renderMapping m with
    | error fault =>
      simp only [hrender] at h
      cases h
      exact .inr ⟨fault, rfl, rfl⟩
    | ok rendered =>
      simp only [hrender] at h
      split at h
      · cases h
        exact .inl ⟨_, rfl⟩
      · cases h

/-! ### Names of methods -/

theorem mappingOf?_eq_some_iff :
    r.mappingOf? name = some m ↔
      ∃ method, Text.upper name = method.name ∧ r.mapping? method = some m := by
  unfold mappingOf? Method.ofText?
  rw [Option.bind_eq_some_iff]
  exact exists_congr fun method => and_congr_left' Method.ofName?_eq_some_iff

/-- A name of a method in any case resolves to what the method resolves to. -/
theorem resolveNamed_eq_resolve (hname : Text.upper name = method.name) :
    r.resolveNamed name = r.resolve method := by
  have hmethod : Method.ofText? name = some method := Method.ofName?_eq_some_iff.2 hname
  have hmapping : r.mappingOf? name = r.mapping? method := by
    unfold mappingOf?
    rw [hmethod, Option.bind_some]
  unfold resolveNamed resolve
  rw [hmapping, hname]

theorem resolve_of_mapping? (hm : r.mapping? method = some m) :
    r.resolve method = r.generate m := by
  unfold resolve
  rw [hm]

theorem resolveNamed_eq_ok_iff :
    r.resolveNamed name = .ok q ↔
      ∃ method m, Text.upper name = method.name ∧ r.mapping? method = some m ∧
        r.generate m = .ok q := by
  constructor
  · intro h
    unfold resolveNamed at h
    split at h
    · cases h
    · next m hm =>
      obtain ⟨method, hname, hmapping⟩ := mappingOf?_eq_some_iff.1 hm
      exact ⟨method, m, hname, hmapping, h⟩
  · rintro ⟨method, m, hname, hm, h⟩
    rw [resolveNamed_eq_resolve hname, resolve_of_mapping? hm, h]

theorem resolveNamed_of_no_mapping
    (h : ∀ method m, Text.upper name = method.name → r.mapping? method ≠ some m) :
    r.resolveNamed name = .error (.mappingNotFound (Text.upper name)) := by
  have hnone : r.mappingOf? name = none := by
    refine Option.eq_none_iff_forall_ne_some.2 fun m hm => ?_
    obtain ⟨method, hname, hmapping⟩ := mappingOf?_eq_some_iff.1 hm
    exact h method m hname hmapping
  unfold resolveNamed
  rw [hnone]

end Resource

end DesiredState
