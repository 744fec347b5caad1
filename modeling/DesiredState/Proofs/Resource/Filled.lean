import DesiredState.Proofs.Resource.Resolution
import DesiredState.Proofs.Template.Filling

/-!
# The request that a method resolves to

The templates of a mapping filled in make the request of a method, if each of their paths has a
value and the URL is not blank. A header has the values of the mapping if the mapping has it, and
otherwise those of the specification, whose other values are not looked at. What is left to go
wrong, with indexes that can be read, is a status code that is too long to be written.

* `Resource.requestOf`: the templates of a mapping filled in.
* `Resource.isWritableAt_context_iff`: the three paths that show the status code.
* `Resource.renderMapping_eq`: the templates of a mapping rendered, in closed form.
* `Resource.generate_withHeaders`: headers that are overridden do not matter.
* `Resource.resolveNamed_by_templates`: **what a method resolves to, and how it fails.**
-/

namespace DesiredState.Resource

variable {r : Resource} {m : Mapping} {q : ResolvedRequest} {context w : Json} {path : Text}
  {s : Path.Segment} {ss : List Path.Segment}

/-! ### The status code in templates -/

/-- A step from the context leads to what can be written or to the last response. -/
theorem step_context_cases (h : Path.step r.context s = .ok (some w)) :
    w.isWritable = true ∨ s = .key "response" ∧ w = r.responseValue := by
  rw [context_eq] at h
  refine (Path.step_obj_cases "response" (fun e he hne => ?_) h).imp_right
    fun hstep => ⟨hstep.1, (Option.some.inj hstep.2).symm⟩
  rcases List.mem_cons.1 he with rfl | he
  · exact r.isWritable_payloadValue
  · obtain rfl := List.mem_singleton.1 he
    exact absurd rfl hne

/-- A step from the last response leads to what can be written or to the status code. -/
theorem step_responseValue_cases (h : Path.step r.responseValue s = .ok (some w)) :
    w.isWritable = true ∨ s = .key "status_code" ∧ w = .int r.status.response.status := by
  refine (Path.step_obj_cases "status_code" (fun e he hne => ?_) h).imp_right
    fun hstep => ⟨hstep.1, (Option.some.inj hstep.2).symm⟩
  rcases List.mem_cons.1 he with rfl | he
  · exact absurd rfl hne
  · rcases List.mem_cons.1 he with rfl | he
    · exact Json.isWritable_ofBody _
    · obtain rfl := List.mem_singleton.1 he
      exact r.isWritable_headersValue

/-- What cannot be written is the whole context, the last response or its status code. -/
theorem walk_context_cases (h : Path.walk r.context ss = .ok (some w)) :
    w.isWritable = true ∨ ss = [] ∨ ss = [.key "response"] ∨
      ss = [.key "response", .key "status_code"] := by
  -- every step leads to what can be written, or along the one way to the status code
  cases ss with
  | nil => exact .inr (.inl rfl)
  | cons s ss =>
    unfold Path.walk at h
    split at h
    · cases h
    · cases h
    next x hx =>
    rcases step_context_cases hx with hwritable | ⟨rfl, rfl⟩
    · exact .inl (Path.isWritable_of_walk hwritable h)
    cases ss with
    | nil => exact .inr (.inr (.inl rfl))
    | cons s ss =>
      unfold Path.walk at h
      split at h
      · cases h
      · cases h
      next y hy =>
      rcases step_responseValue_cases hy with hwritable | ⟨rfl, rfl⟩
      · exact .inl (Path.isWritable_of_walk hwritable h)
      cases ss with
      | nil => exact .inr (.inr (.inr rfl))
      | cons s ss =>
        unfold Path.walk at h
        split at h
        · cases h
        · cases h
        next z hz => exact absurd hz (Path.step_scalar _)

/-- A path to a value that has the status code of the last response in it. -/
def IsStatusPath (path : Text) : Prop :=
  path = "." ∨ path = ".response" ∨ path = ".response.status_code"

instance (path : Text) : Decidable (IsStatusPath path) := inferInstanceAs (Decidable (_ ∨ _))

theorem isWritable_status_of_responseValue (h : r.responseValue.isWritable = true) :
    Numeral.isWritable r.status.response.status = true := by
  have hcode : (Json.int r.status.response.status).isWritable = true :=
    Json.isWritableMembers_iff.1 h ("status_code", .int r.status.response.status)
      List.mem_cons_self
  exact hcode

/-- The value at a path can be written if the status code can, or if it does not have it in it. -/
theorem isWritableAt_context_iff (hne : path ≠ []) :
    Path.isWritableAt r.context path = true ↔
      (IsStatusPath path → Numeral.isWritable r.status.response.status = true) := by
  rw [Path.isWritableAt_iff]
  constructor
  · intro hall hpath
    rcases hpath with rfl | rfl | rfl
    · have hcontext : r.context.isWritable = true := hall r.context rfl
      have hresponse := Json.isWritableMembers_iff.1 hcontext ("response", r.responseValue)
        (List.mem_cons_of_mem _ List.mem_cons_self)
      exact isWritable_status_of_responseValue hresponse
    · exact isWritable_status_of_responseValue (hall r.responseValue rfl)
    · exact hall (.int r.status.response.status) rfl
  · intro hstatus v hv
    by_cases hpath : IsStatusPath path
    · exact Path.isWritable_of_lookup (isWritable_context (hstatus hpath)) hv
    · obtain ⟨hwhole, hothers⟩ := not_or.1 hpath
      obtain ⟨hresponse, hcode⟩ := not_or.1 hothers
      have htext := Path.text_of_scan path
      unfold Path.lookup at hv
      rw [if_neg hwhole] at hv
      generalize Path.scan path = scanned at hv htext
      obtain ⟨ss, rest⟩ := scanned
      dsimp only at hv htext
      split at hv
      · cases hv
      next x hx =>
      simp only [Except.ok.injEq] at hv
      split at hv
      · next hrest =>
        subst hv
        -- all of the path is segments, so that the segments say how it is written
        rw [List.isEmpty_iff.1 hrest, List.append_nil] at htext
        rcases walk_context_cases hx with hwritable | rfl | rfl | rfl
        · exact hwritable
        · exact absurd htext hne
        · exact absurd htext hresponse
        · exact absurd htext hcode
      · cases hv

/-- A template of the mapping shows the status code of the last response. -/
def ShowsStatus (r : Resource) (m : Mapping) : Prop := ∃ path ∈ r.paths m, IsStatusPath path

instance (r : Resource) (m : Mapping) : Decidable (r.ShowsStatus m) :=
  inferInstanceAs (Decidable (∃ path ∈ r.paths m, IsStatusPath path))

theorem paths_all_isWritableAt_iff :
    (r.paths m).all (Path.isWritableAt r.context) = true ↔
      (r.ShowsStatus m → Numeral.isWritable r.status.response.status = true) := by
  have hne {path : Text} (h : path ∈ r.paths m) : path ≠ [] := by
    obtain ⟨t, -, ht⟩ := List.mem_flatMap.1 h
    exact Template.ne_nil_of_mem_paths ht
  rw [List.all_eq_true]
  constructor
  · rintro hall ⟨path, hpath, hstatus⟩
    exact (isWritableAt_context_iff (hne hpath)).1 (hall path hpath) hstatus
  · intro h path hpath
    exact (isWritableAt_context_iff (hne hpath)).2 fun hstatus => h ⟨path, hpath, hstatus⟩

/-! ### Templates in closed form -/

/-- Headers with their values filled in. -/
def filledHeaders (context : Json) (headers : Headers) : Headers :=
  headers.map fun header => (header.1, header.2.map (Template.filled context))

/-- The templates of a mapping filled in, without the blanks around the URL. -/
def requestOf (r : Resource) (m : Mapping) : ResolvedRequest :=
  ⟨Text.trim (Template.filled r.context (r.urlTemplate m)), Template.filled r.context m.body,
    filledHeaders r.context (r.effectiveHeaders m)⟩

/-- The paths of a request without a value, in their order. -/
def missing (r : Resource) (m : Mapping) : List Text :=
  (r.paths m).filter (Path.isMissing r.context)

theorem renderValues_eq (context : Json) {values : List Text}
    (hshort : ∀ t ∈ values, Template.IsShort t) :
    renderValues context values =
      if (values.flatMap Template.paths).all (Path.isWritableAt context) then
        .ok (values.map (Template.filled context),
          (values.flatMap Template.paths).filter (Path.isMissing context))
      else .error .unwritable := by
  induction values with
  | nil => rfl
  | cons t ts ih =>
    obtain ⟨ht, hts⟩ := List.forall_mem_cons.1 hshort
    rw [renderValues, Template.render_eq context ht, ih hts, List.flatMap_cons, List.all_append,
      List.filter_append]
    cases (Template.paths t).all (Path.isWritableAt context) with
    | false => rfl
    | true => cases (ts.flatMap Template.paths).all (Path.isWritableAt context) <;> rfl

theorem renderHeaders_eq {headers : Headers}
    (hshort : ∀ t ∈ headers.flatMap Prod.snd, Template.IsShort t) :
    renderHeaders context headers =
      if ((headers.flatMap Prod.snd).flatMap Template.paths).all (Path.isWritableAt context) then
        .ok (filledHeaders context headers,
          ((headers.flatMap Prod.snd).flatMap Template.paths).filter (Path.isMissing context))
      else .error .unwritable := by
  induction headers with
  | nil => rfl
  | cons header hs ih =>
    obtain ⟨name, values⟩ := header
    rw [List.flatMap_cons] at hshort
    have hvalues := renderValues_eq context fun t ht =>
      hshort t (List.mem_append_left _ ht)
    have hrest := ih fun t ht => hshort t (List.mem_append_right _ ht)
    rw [renderHeaders, hvalues, hrest, List.flatMap_cons, List.flatMap_append, List.all_append,
      List.filter_append]
    cases (values.flatMap Template.paths).all (Path.isWritableAt context) with
    | false => rfl
    | true =>
      cases ((hs.flatMap Prod.snd).flatMap Template.paths).all (Path.isWritableAt context) <;> rfl

/-- The templates of a mapping rendered, in closed form. The blanks around the URL are still
there. -/
theorem renderMapping_eq (hshort : ∀ t ∈ r.templates m, Template.IsShort t) :
    r.renderMapping m =
      if (r.paths m).all (Path.isWritableAt r.context) then
        .ok ({ r.requestOf m with url := Template.filled r.context (r.urlTemplate m) }, r.missing m)
      else .error .unwritable := by
  obtain ⟨hurl, hrest⟩ := List.forall_mem_cons.1 hshort
  obtain ⟨hbody, hheaders⟩ := List.forall_mem_cons.1 hrest
  have hpaths : r.paths m = Template.paths (r.urlTemplate m) ++ (Template.paths m.body ++
      ((r.effectiveHeaders m).flatMap Prod.snd).flatMap Template.paths) := by
    rw [paths, templates, List.flatMap_cons, List.flatMap_cons]
  rw [missing, hpaths, List.all_append, List.all_append, List.filter_append, List.filter_append,
    ← List.append_assoc]
  unfold renderMapping
  dsimp only
  rw [Template.render_eq r.context hurl, Template.render_eq r.context hbody,
    renderHeaders_eq hheaders]
  cases (Template.paths (r.urlTemplate m)).all (Path.isWritableAt r.context) with
  | false => rfl
  | true =>
    cases (Template.paths m.body).all (Path.isWritableAt r.context) with
    | false => rfl
    | true =>
      cases (((r.effectiveHeaders m).flatMap Prod.snd).flatMap Template.paths).all
        (Path.isWritableAt r.context) <;> rfl

theorem missing_eq_nil_iff (hshort : ∀ t ∈ r.templates m, Template.IsShort t) :
    r.missing m = [] ↔ ∀ path ∈ r.paths m, ∃ v, Path.lookup r.context path = .ok (some v) := by
  rw [missing, List.filter_eq_nil_iff]
  refine forall₂_congr fun path hpath => ?_
  obtain ⟨t, ht, hmem⟩ := List.mem_flatMap.1 hpath
  obtain ⟨found, hfound⟩ := Path.lookup_of_isShort r.context (hshort t ht path hmem)
  rw [Path.isMissing_iff, hfound]
  cases found with
  | none => simp
  | some v => simp

/-- The request of a mapping in closed form, if the status code can be written where it is shown. -/
theorem generate_eq (hshort : ∀ t ∈ r.templates m, Template.IsShort t)
    (hstatus : r.ShowsStatus m → Numeral.isWritable r.status.response.status = true) :
    r.generate m =
      if r.missing m = [] ∧ Text.isBlank (Template.filled r.context (r.urlTemplate m)) = false then
        .ok (r.requestOf m)
      else .error (.invalidRequest m.method (r.missing m)) := by
  have hinvalid : (!(r.missing m).isEmpty ||
        Text.isBlank (Template.filled r.context (r.urlTemplate m))) = true ↔
      ¬ (r.missing m = [] ∧
        Text.isBlank (Template.filled r.context (r.urlTemplate m)) = false) := by
    rw [not_and_or, Bool.not_eq_false, Bool.or_eq_true, Bool.not_eq_true',
      List.isEmpty_eq_false_iff]
  unfold generate
  rw [renderMapping_eq hshort, if_pos (paths_all_isWritableAt_iff.2 hstatus)]
  dsimp only
  by_cases hvalid : r.missing m = [] ∧
      Text.isBlank (Template.filled r.context (r.urlTemplate m)) = false
  · rw [if_neg (mt hinvalid.1 (not_not.2 hvalid)), if_pos hvalid]
    rfl
  · rw [if_pos (hinvalid.2 hvalid), if_neg hvalid]

theorem generate_unwritable (hshort : ∀ t ∈ r.templates m, Template.IsShort t)
    (hshows : r.ShowsStatus m) (hlong : Numeral.isWritable r.status.response.status = false) :
    r.generate m = .error (.template .unwritable) := by
  have hnot : ¬ (r.paths m).all (Path.isWritableAt r.context) = true := by
    intro hall
    have hwritable := paths_all_isWritableAt_iff.1 hall hshows
    rw [hlong] at hwritable
    cases hwritable
  unfold generate
  rw [renderMapping_eq hshort, if_neg hnot]

/-- **When a mapping makes a request, and which.** -/
theorem generate_eq_ok_iff (hshort : ∀ t ∈ r.templates m, Template.IsShort t) :
    r.generate m = .ok q ↔
      (∀ path ∈ r.paths m, ∃ v, Path.lookup r.context path = .ok (some v)) ∧
        Text.isBlank (Template.filled r.context (r.urlTemplate m)) = false ∧
        (r.ShowsStatus m → Numeral.isWritable r.status.response.status = true) ∧
        q = r.requestOf m := by
  rw [← missing_eq_nil_iff hshort]
  by_cases hstatus : r.ShowsStatus m → Numeral.isWritable r.status.response.status = true
  · rw [generate_eq hshort hstatus]
    split
    · next hvalid =>
      rw [Except.ok.injEq]
      exact ⟨fun h => ⟨hvalid.1, hvalid.2, hstatus, h.symm⟩, fun h => h.2.2.2.symm⟩
    · next hinvalid => exact iff_of_false nofun fun h => hinvalid ⟨h.1, h.2.1⟩
  · obtain ⟨hshows, hlong⟩ := Classical.not_imp.1 hstatus
    rw [generate_unwritable hshort hshows (Bool.eq_false_of_not_eq_true hlong)]
    exact iff_of_false nofun fun h => hstatus h.2.2.1

/-! ### Headers -/

/-- The resource with other default headers. -/
def withHeaders (r : Resource) (headers : Headers) : Resource :=
  { r with spec := { r.spec with headers } }

/-- Default headers that a mapping overrides are not looked at. -/
theorem generate_withHeaders {headers : Headers} (hm : (Entries.keys m.headers).Nodup)
    (hr : (Entries.keys r.spec.headers).Nodup)
    (hkeys : Entries.keys headers = Entries.keys r.spec.headers)
    (hsame : ∀ k ∉ Entries.keys m.headers,
      Entries.find? k headers = Entries.find? k r.spec.headers) :
    (r.withHeaders headers).generate m = r.generate m := by
  have hnew (k : Text) : (Entries.find? k headers).isNone =
      (Entries.find? k r.spec.headers).isNone := by
    rw [Bool.eq_iff_iff, Option.isNone_iff_eq_none, Option.isNone_iff_eq_none,
      Entries.find?_eq_none_iff, Entries.find?_eq_none_iff, hkeys]
  -- the keys stand in one order, and where the values may differ the mapping has its own
  have hmerge : Entries.merge headers m.headers = Entries.merge r.spec.headers m.headers := by
    refine Entries.ext_of_nodup ?_ (Entries.nodup_keys_merge (hkeys ▸ hr)) fun k => ?_
    · rw [Entries.keys_merge hm, Entries.keys_merge hm, hkeys]
      simp only [hnew]
    · rw [Entries.find?_merge hm, Entries.find?_merge hm]
      by_cases hk : k ∈ Entries.keys m.headers
      · obtain ⟨values, hvalues⟩ := Option.ne_none_iff_exists'.1
          (mt Entries.find?_eq_none_iff.1 (not_not.2 hk))
        rw [hvalues, Option.some_or, Option.some_or]
      · rw [hsame k hk]
  have heffective : (r.withHeaders headers).effectiveHeaders m = r.effectiveHeaders m := hmerge
  unfold generate renderMapping
  dsimp only
  rw [heffective]
  rfl

/-! ### The law -/

/-- **What a method resolves to, and how it fails.** With indexes that can be read, the request is
made of the templates of the mapping filled in, and there is one if the method has a mapping, every
path of the templates has a value, the URL is not blank and the status code can be written if it is
shown. Otherwise the mapping is missing, the request is not valid and the paths without a value are
reported, or the status code is too long. Of the headers, the mapping's override those of the
specification, which then may be any. -/
theorem resolveNamed_by_templates (r : Resource) (name : Text)
    (hshort : ∀ method m, Text.upper name = method.name → r.mapping? method = some m →
      ∀ t ∈ r.templates m, Template.IsShort t) :
    (∀ q, r.resolveNamed name = .ok q ↔
      ∃ method m, Text.upper name = method.name ∧ r.mapping? method = some m ∧
        (∀ path ∈ r.paths m, ∃ v, Path.lookup r.context path = .ok (some v)) ∧
        Text.isBlank (Template.filled r.context (r.urlTemplate m)) = false ∧
        (r.ShowsStatus m → Numeral.isWritable r.status.response.status = true) ∧
        q = r.requestOf m) ∧
    ((∀ method m, Text.upper name = method.name → r.mapping? method ≠ some m) →
      r.resolveNamed name = .error (.mappingNotFound (Text.upper name))) ∧
    ∀ method m, Text.upper name = method.name → r.mapping? method = some m →
      ((r.ShowsStatus m → Numeral.isWritable r.status.response.status = true) →
        (∃ path ∈ r.paths m, Path.lookup r.context path = .ok none) ∨
          Text.isBlank (Template.filled r.context (r.urlTemplate m)) = true →
        r.resolveNamed name =
          .error (.invalidRequest m.method ((r.paths m).filter (Path.isMissing r.context)))) ∧
      (r.ShowsStatus m → Numeral.isWritable r.status.response.status = false →
        r.resolveNamed name = .error (.template .unwritable)) ∧
      ((Entries.keys m.headers).Nodup →
        Entries.keys (r.requestOf m).headers = Entries.keys r.spec.headers ++
          (Entries.keys m.headers).filter (fun k => (Entries.find? k r.spec.headers).isNone) ∧
        (∀ k, Entries.find? k (r.requestOf m).headers =
          ((Entries.find? k m.headers).or (Entries.find? k r.spec.headers)).map
            (List.map (Template.filled r.context))) ∧
        ∀ headers : Headers, (Entries.keys r.spec.headers).Nodup →
          Entries.keys headers = Entries.keys r.spec.headers →
          (∀ k ∉ Entries.keys m.headers,
            Entries.find? k headers = Entries.find? k r.spec.headers) →
          (r.withHeaders headers).resolveNamed name = r.resolveNamed name) := by
  refine ⟨fun q => ?_, resolveNamed_of_no_mapping, fun method m hname hm => ?_⟩
  · rw [resolveNamed_eq_ok_iff]
    refine exists₂_congr fun method m => and_congr_right fun hname => and_congr_right fun hm => ?_
    exact generate_eq_ok_iff (hshort method m hname hm)
  have ht := hshort method m hname hm
  have hresolve : r.resolveNamed name = r.generate m := by
    rw [resolveNamed_eq_resolve hname, resolve_of_mapping? hm]
  refine ⟨fun hstatus hinvalid => ?_, fun hshows hlong => ?_, fun hkeys => ⟨?_, fun k => ?_, ?_⟩⟩
  · have hnot : ¬ (r.missing m = [] ∧
        Text.isBlank (Template.filled r.context (r.urlTemplate m)) = false) := by
      rintro ⟨hmissing, hurl⟩
      rcases hinvalid with ⟨path, hpath, hnone⟩ | hblank
      · obtain ⟨v, hv⟩ := (missing_eq_nil_iff ht).1 hmissing path hpath
        rw [hnone] at hv
        cases hv
      · rw [hurl] at hblank
        cases hblank
    rw [hresolve, generate_eq ht hstatus, if_neg hnot]
    rfl
  · rw [hresolve, generate_unwritable ht hshows hlong]
  · exact (Entries.keys_map_snd _ _).trans (Entries.keys_merge hkeys)
  · refine (Entries.find?_map_snd _ k _).trans ?_
    rw [effectiveHeaders, Entries.find?_merge hkeys]
  · intro headers hdefault hsameKeys hsame
    have hm' : (r.withHeaders headers).mapping? method = some m := hm
    rw [hresolve, resolveNamed_eq_resolve hname, resolve_of_mapping? hm',
      generate_withHeaders hkeys hdefault hsameKeys hsame]

/-- A mapping with a header of its own in place of a default one. -/
def overridingGet : Mapping :=
  ⟨.get, " \x7b\x7b.payload.base_url\x7d\x7d/x ", [],
    [("a", ["\x7b\x7b .payload.base_url \x7d\x7d"]), ("c", ["3"])]⟩

/-- A resource with the mapping. The default header in the place of which it has its own leads
nowhere. -/
def overriding : Resource where
  name := "page"
  spec := ⟨⟨"u", []⟩, [(.get, overridingGet)],
    [("a", ["\x7b\x7b.payload.nothing\x7d\x7d"]), ("b", ["1", "2"])], false⟩
  status := .empty

/-- A default header that leads nowhere does not matter where the mapping has its own. -/
theorem resolveNamed_overriding :
    overriding.mapping? .get = some overridingGet ∧
      (∀ t ∈ overriding.templates overridingGet, Template.IsShort t) ∧
      overriding.resolveNamed "Get" =
        .ok ⟨"u/x", [], [("a", ["u"]), ("b", ["1", "2"]), ("c", ["3"])]⟩ ∧
      (overriding.withHeaders [("a", []), ("b", ["1", "2"])]).resolveNamed "Get" =
        overriding.resolveNamed "Get" := by
  have hmapping : overriding.mapping? .get = some overridingGet := rfl
  have hname : Text.upper "Get" = Method.get.name := by decide +kernel
  have hshort : ∀ t ∈ overriding.templates overridingGet, Template.IsShort t := by decide
  have hshort' : ∀ method m, Text.upper "Get" = method.name → overriding.mapping? method = some m →
      ∀ t ∈ overriding.templates m, Template.IsShort t := by
    intro method m hmethod hm
    obtain rfl := Method.name_injective (hname.symm.trans hmethod)
    cases hmapping.symm.trans hm
    exact hshort
  have hpaths : overriding.paths overridingGet =
      ([".payload.base_url", ".payload.base_url"] : List Text) := by decide
  have hvalues : ∀ path ∈ overriding.paths overridingGet,
      ∃ v, Path.lookup overriding.context path = .ok (some v) := by
    rw [hpaths]
    intro path hpath
    refine ⟨.str "u", ?_⟩
    simp only [List.mem_cons, List.not_mem_nil, or_false, or_self] at hpath
    rw [hpath]
    rfl
  have hurl : Text.isBlank (Template.filled overriding.context
      (overriding.urlTemplate overridingGet)) = false := by decide
  have hstatus : overriding.ShowsStatus overridingGet →
      Numeral.isWritable overriding.status.response.status = true :=
    fun hshows => absurd hshows (by decide)
  have hrequest : (⟨"u/x", [], [("a", ["u"]), ("b", ["1", "2"]), ("c", ["3"])]⟩ : ResolvedRequest) =
      overriding.requestOf overridingGet := by
    decide
  obtain ⟨hok, -, hmapped⟩ := resolveNamed_by_templates overriding "Get" hshort'
  obtain ⟨-, -, hheaders⟩ := hmapped .get overridingGet hname hmapping
  obtain ⟨-, -, hother⟩ := hheaders (by decide)
  refine ⟨hmapping, hshort, ?_, ?_⟩
  · exact (hok _).2 ⟨.get, overridingGet, hname, hmapping, hvalues, hurl, hstatus, hrequest⟩
  · refine hother [("a", []), ("b", ["1", "2"])] (by decide) rfl fun k hk => ?_
    have hka : ("a" : Text) ≠ k := fun h => hk (h ▸ List.mem_cons_self)
    have hdefault : overriding.spec.headers =
        ([("a", ["\x7b\x7b.payload.nothing\x7d\x7d"]), ("b", ["1", "2"])] : Headers) := rfl
    rw [hdefault]
    simp only [Entries.find?, if_neg hka]

/-- A resource whose URL shows a status code that is too long to be written. -/
def longStatus : Resource where
  name := "page"
  spec := ⟨⟨"u\x7b\x7b.response.status_code\x7d\x7d", []⟩, [(.get, ⟨.get, [], [], []⟩)], [], false⟩
  status := { Status.empty with response := ⟨Nat.pow 10 Numeral.maxDigits, [], []⟩ }

/-- A status code that is too long has a value at its path, and nothing resolves. -/
theorem longStatus_not_resolved :
    ∃ m, longStatus.mapping? .get = some m ∧ (∀ t ∈ longStatus.templates m, Template.IsShort t) ∧
      (∀ path ∈ longStatus.paths m, ∃ v, Path.lookup longStatus.context path = .ok (some v)) ∧
      Text.isBlank (Template.filled longStatus.context (longStatus.urlTemplate m)) = false ∧
      ∀ q, longStatus.resolveNamed "GET" ≠ .ok q := by
  have hmapping : longStatus.mapping? .get = some ⟨.get, [], [], []⟩ := rfl
  have hname : Text.upper "GET" = Method.get.name := by decide +kernel
  have hshort : ∀ t ∈ longStatus.templates ⟨.get, [], [], []⟩, Template.IsShort t := by decide
  have hpaths : longStatus.paths ⟨.get, [], [], []⟩ =
      ([".response.status_code"] : List Text) := by decide
  have hshows : longStatus.ShowsStatus ⟨.get, [], [], []⟩ := by decide
  refine ⟨_, hmapping, hshort, ?_, ?_, fun q hq => ?_⟩
  · rw [hpaths]
    exact List.forall_mem_singleton.2 ⟨.int longStatus.status.response.status, rfl⟩
  · rfl
  · rw [resolveNamed_eq_resolve hname, resolve_of_mapping? hmapping,
      generate_unwritable hshort hshows Numeral.isWritable_pow_maxDigits] at hq
    cases hq

end DesiredState.Resource
