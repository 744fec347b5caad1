import DesiredState.Proofs.Json.Depth
import DesiredState.Proofs.Json.Writing
import DesiredState.Proofs.Resource.Tidy
import DesiredState.Resource.Document
import Mathlib.Data.List.Nodup

/-!
# Documents of resources

The document of a resource has every field, so the checks find the resource again in it, provided
that its tables are as the checks make them. With the texts that JSON can carry, it survives being
written and read as well.

* `Resource.isFaithful_toJson`: a document without surrogate pairs can be read as it was written.
* `Resource.ofData_toJson`: **the checks find the resource in its document.**
* `Resource.decodeStored_document`: **a written document is the resource again.**
-/

namespace DesiredState

open Schema

namespace Schema

variable {α κ : Type} [DecidableEq κ] {name : Text} {check : Data → Checked α} {d : Data} {x : α}
  {entries : List (Key × Data)}

theorem Check.required_of_find? (hf : Data.find? name entries = some d) (hd : check d = .ok x) :
    Check.required name check entries = .ok x := by
  rw [Check.required, hf, Checked.within_eq_ok_iff]
  exact hd

theorem Check.optional_of_find? {default : α} (hf : Data.find? name entries = some d)
    (hd : check d = .ok x) : Check.optional name check default entries = .ok x := by
  rw [Check.optional, hf]
  exact Checked.within_eq_ok_iff.2 hd

theorem Check.text_str (s : Text) : Check.text (.str s) = .ok s := rfl

theorem Check.listOf_map {f : α → Data} {xs : List α} (h : ∀ x ∈ xs, check (f x) = .ok x) :
    Check.listOf check (.list (xs.map f)) = .ok xs := by
  have hnumbered : ∀ i, Checked.all (Check.numbered check i (xs.map f)) = .ok xs := by
    induction xs with
    | nil => exact fun _ => rfl
    | cons x xs ih =>
      intro i
      obtain ⟨hx, hxs⟩ := List.forall_mem_cons.1 h
      rw [List.map_cons, Check.numbered, Checked.all, hx, ih hxs]
      rfl
  exact hnumbered 0

/-- Entries without repeated keys are the table that they make. -/
theorem Check.entries_map {σ : Type} {key : Data → Checked κ} {value : σ → Checked α}
    {f : κ × α → Key × σ} {es : List (κ × α)} (hkeys : (Entries.keys es).Nodup)
    (hkey : ∀ e ∈ es, key (f e).1.toData = .ok e.1) (hvalue : ∀ e ∈ es, value (f e).2 = .ok e.2) :
    Check.entries key value (es.map f) = .ok es := by
  rw [Check.entries_eq_ok_iff]
  refine ⟨es, List.forall₂_map_left_iff.2 (List.forall₂_same.2 fun e he => ?_),
    Entries.ofPairs_of_nodup hkeys⟩
  exact ⟨hkey e he, hvalue e he⟩

end Schema

variable {d : Data} {entries : List (Key × Data)}

theorem Data.ofItems_eq_map (vs : List Json) : Data.ofItems vs = vs.map Data.ofJson := by
  induction vs with
  | nil => rfl
  | cons v vs ih => rw [Data.ofItems, ih, List.map_cons]

theorem Data.ofMembers_eq_map (ms : List (Text × Json)) :
    Data.ofMembers ms = ms.map fun m => (.str m.1, Data.ofJson m.2) := by
  induction ms with
  | nil => rfl
  | cons m ms ih => rw [Data.ofMembers, ih, List.map_cons]

theorem Headers.ofData_toJson {h : Headers} (hn : (Entries.keys h).Nodup) :
    Headers.ofData (Data.ofJson h.toJson) = .ok h := by
  have hdata : Data.ofJson h.toJson = .dict (h.map fun e => (.str e.1, .list (e.2.map .str))) := by
    rw [Headers.toJson, Data.ofJson, Data.ofMembers_eq_map, List.map_map]
    refine congrArg Data.dict (List.map_congr_left fun e _ => ?_)
    simp only [Function.comp, Data.ofJson, Data.ofItems_eq_map, List.map_map]
    rfl
  have hvalues : ∀ e ∈ h, Check.listOf Check.text (.list (e.2.map .str)) = .ok e.2 :=
    fun e _ => Check.listOf_map fun t _ => Check.text_str t
  rw [hdata]
  exact Check.entries_map hn (fun e _ => Check.text_str e.1) hvalues

theorem Mapping.ofData_toJson {m : Mapping} (hn : (Entries.keys m.headers).Nodup) :
    Mapping.ofData (Data.ofJson m.toJson) = .ok m := by
  -- each field stands under the name that the checks look for
  unfold Mapping.ofData Mapping.toJson
  simp only [Data.ofJson, Data.ofMembers, Check.model]
  rw [Check.required_of_find? rfl (Method.ofData_name m.method), Check.optional_of_find? rfl (Check.text_str _),
    Check.optional_of_find? rfl (Check.text_str _),
    Check.optional_of_find? rfl (Headers.ofData_toJson hn)]
  rfl

theorem Mapping.Sources.field_of_find? {table : List (Method × Mapping)}
    (hf : Data.find? "mappings" entries = some d) (ht : (Sources.ofData d).table = .ok table) :
    Sources.field ((Data.find? "mappings" entries).map Sources.ofData) = .ok table := by
  rw [hf]
  exact Checked.within_eq_ok_iff.2 ht

theorem Payload.ofData_toJson (p : Payload) : Payload.ofData (Data.ofJson p.toJson) = .ok p := by
  unfold Payload.ofData Payload.toJson
  simp only [Data.ofJson, Data.ofMembers, Check.model]
  rw [Check.required_of_find? rfl (Check.text_str _),
    Check.optional_of_find? rfl (Check.text_str _)]
  rfl

theorem Request.ofData_toJson {r : Request} (hn : (Entries.keys r.headers).Nodup) :
    Request.ofData (Data.ofJson r.toJson) = .ok r := by
  unfold Request.ofData Request.toJson
  simp only [Data.ofJson, Data.ofMembers, Check.model]
  rw [Check.optional_of_find? rfl (Check.text_str _),
    Check.optional_of_find? rfl (Check.text_str _),
    Check.optional_of_find? rfl (Check.text_str _),
    Check.optional_of_find? rfl (Headers.ofData_toJson hn)]
  rfl

theorem Response.ofData_toJson {r : Response} (hn : (Entries.keys r.headers).Nodup) :
    Response.ofData (Data.ofJson r.toJson) = .ok r := by
  have hstatus : Check.whole (.int r.status) = .ok r.status := rfl
  unfold Response.ofData Response.toJson
  simp only [Data.ofJson, Data.ofMembers, Check.model]
  rw [Check.optional_of_find? rfl hstatus, Check.optional_of_find? rfl (Check.text_str _),
    Check.optional_of_find? rfl (Headers.ofData_toJson hn)]
  rfl

theorem Status.ofData_toJson {s : Status} (hreq : (Entries.keys s.request.headers).Nodup)
    (hresp : (Entries.keys s.response.headers).Nodup) :
    Status.ofData (Data.ofJson s.toJson) = .ok s := by
  have hfailed : Check.whole (.int s.failed) = .ok s.failed := rfl
  unfold Status.ofData Status.toJson
  simp only [Data.ofJson, Data.ofMembers, Check.model]
  rw [Check.optional_of_find? rfl (Request.ofData_toJson hreq),
    Check.optional_of_find? rfl (Response.ofData_toJson hresp), Check.optional_of_find? rfl hfailed,
    Check.optional_of_find? rfl (Check.text_str _)]
  rfl

namespace Resource

variable {r : Resource}

/-- The table of mappings is found again in its document. -/
theorem table_mappings (h : r.IsTidy) :
    (Mapping.Sources.ofData (Data.ofJson
      (.obj (r.spec.mappings.map fun e => (e.1.name, e.2.toJson))))).table = .ok r.spec.mappings := by
  have hsources : Mapping.Sources.ofData (Data.ofJson
      (.obj (r.spec.mappings.map fun e => (e.1.name, e.2.toJson)))) =
        .dict (r.spec.mappings.map fun e => (.str e.1.name, .data (Data.ofJson e.2.toJson))) := by
    rw [Data.ofJson, Data.ofMembers_eq_map, List.map_map, Mapping.Sources.ofData, List.map_map]
    rfl
  have hmappings : ∀ e ∈ r.spec.mappings,
      Mapping.Source.check (.data (Data.ofJson e.2.toJson)) = .ok e.2 :=
    fun e he => Mapping.ofData_toJson (h.mappingHeaders e he)
  rw [hsources]
  exact Check.entries_map h.methods (fun e _ => Method.ofData_name e.1) hmappings

theorem specification_ofData_toJson (h : r.IsTidy) :
    Specification.ofData (Data.ofJson r.spec.toJson) = .ok r.spec := by
  have hskip : Check.truth (.bool r.spec.skipTlsVerify) = .ok r.spec.skipTlsVerify := rfl
  unfold Specification.ofData Specification.toJson
  simp only [Data.ofJson, Data.ofMembers, Check.model]
  rw [Check.required_of_find? rfl (Payload.ofData_toJson _),
    Mapping.Sources.field_of_find? rfl (table_mappings h),
    Check.optional_of_find? rfl (Headers.ofData_toJson h.headers),
    Check.optional_of_find? rfl hskip]
  exact Specification.ofFields_eq_ok_iff.2 ⟨⟨rfl, rfl, rfl, rfl⟩, h.declared⟩

/-- **A document is the resource again.** -/
theorem ofData_toJson (h : r.IsTidy) : Resource.ofData (Data.ofJson r.toJson) = .ok r := by
  have hcheck : Resource.check (Data.ofJson r.toJson) = .ok r := by
    unfold Resource.check Resource.toJson
    simp only [Data.ofJson, Data.ofMembers, Check.model]
    rw [Check.required_of_find? rfl (Check.text_str _),
      Check.required_of_find? rfl (specification_ofData_toJson h),
      Check.optional_of_find? rfl (Status.ofData_toJson h.requestHeaders h.responseHeaders)]
    rfl
  rw [Resource.ofData, hcheck]

end Resource

/-! ### What a document can carry -/

/-- The texts in headers. -/
def Headers.texts (h : Headers) : List Text := h.flatMap fun e => e.1 :: e.2

/-- The texts in a mapping. -/
def Mapping.texts (m : Mapping) : List Text := m.url :: m.body :: Headers.texts m.headers

/-- The texts in a request. -/
def Request.texts (r : Request) : List Text :=
  r.method :: r.url :: r.body :: Headers.texts r.headers

/-- The texts in a response. -/
def Response.texts (r : Response) : List Text := r.body :: Headers.texts r.headers

/-- The texts in a resource. -/
def Resource.texts (r : Resource) : List Text :=
  [r.name, r.spec.payload.baseUrl, r.spec.payload.body, r.status.error] ++
    r.spec.mappings.flatMap (fun e => e.2.texts) ++ Headers.texts r.spec.headers ++
    r.status.request.texts ++ r.status.response.texts

/-- The whole numbers of a status can be written out. -/
structure Status.IsWritable (s : Status) : Prop where
  code : Numeral.isWritable s.response.status = true
  failed : Numeral.isWritable s.failed = true

theorem Headers.isFaithful_toJson {h : Headers} (hn : (Entries.keys h).Nodup)
    (ht : ∀ t ∈ h.texts, t.IsUnpaired) : h.toJson.IsFaithful := by
  refine ⟨?_, Json.membersFaithful_iff.2 fun m hm => ?_⟩
  · rwa [Entries.keys, List.map_map]
  · obtain ⟨e, he, rfl⟩ := List.mem_map.1 hm
    have htexts := fun t hmem => ht t (List.mem_flatMap.2 ⟨e, he, hmem⟩)
    obtain ⟨hname, hvalues⟩ := List.forall_mem_cons.1 htexts
    refine ⟨hname, Json.areFaithful_iff.2 fun v hv => ?_⟩
    obtain ⟨t, hmem, rfl⟩ := List.mem_map.1 hv
    exact hvalues t hmem

theorem Headers.depth_toJson (h : Headers) : h.toJson.depth ≤ 2 := by
  refine Nat.succ_le_succ (Json.depthMembers_le_iff.2 fun m hm => ?_)
  obtain ⟨e, -, rfl⟩ := List.mem_map.1 hm
  refine Nat.succ_le_succ (Json.depthItems_le_iff.2 fun v hv => ?_)
  obtain ⟨t, -, rfl⟩ := List.mem_map.1 hv
  exact Nat.le_refl 0

theorem Method.isUnpaired_name (m : Method) : m.name.IsUnpaired :=
  Text.isUnpaired_of_noSurrogates (by cases m <;> decide)

theorem Mapping.isFaithful_toJson {m : Mapping} (hn : (Entries.keys m.headers).Nodup)
    (ht : ∀ t ∈ m.texts, t.IsUnpaired) : m.toJson.IsFaithful := by
  simp only [Mapping.texts, List.forall_mem_cons] at ht
  obtain ⟨hurl, hbody, hheaders⟩ := ht
  have hkeys : (["method", "url", "body", "headers"] : List Text).Nodup := by decide
  exact ⟨hkeys, by decide, m.method.isUnpaired_name, by decide, hurl, by decide, hbody, by decide,
    Headers.isFaithful_toJson hn hheaders, trivial⟩

theorem Request.isFaithful_toJson {r : Request} (hn : (Entries.keys r.headers).Nodup)
    (ht : ∀ t ∈ r.texts, t.IsUnpaired) : r.toJson.IsFaithful := by
  simp only [Request.texts, List.forall_mem_cons] at ht
  obtain ⟨hmethod, hurl, hbody, hheaders⟩ := ht
  have hkeys : (["method", "url", "body", "headers"] : List Text).Nodup := by decide
  exact ⟨hkeys, by decide, hmethod, by decide, hurl, by decide, hbody, by decide,
    Headers.isFaithful_toJson hn hheaders, trivial⟩

theorem Response.isFaithful_toJson {r : Response} (hn : (Entries.keys r.headers).Nodup)
    (hstatus : Numeral.isWritable r.status = true) (ht : ∀ t ∈ r.texts, t.IsUnpaired) :
    r.toJson.IsFaithful := by
  simp only [Response.texts, List.forall_mem_cons] at ht
  obtain ⟨hbody, hheaders⟩ := ht
  have hkeys : (["status_code", "body", "headers"] : List Text).Nodup := by decide
  exact ⟨hkeys, by decide, hstatus, by decide, hbody, by decide,
    Headers.isFaithful_toJson hn hheaders, trivial⟩

theorem Mapping.depth_toJson (m : Mapping) : m.toJson.depth ≤ 3 := by
  have hheaders := Headers.depth_toJson m.headers
  simp only [Mapping.toJson, Json.depth, Json.depthMembers]
  omega

theorem Request.depth_toJson (r : Request) : r.toJson.depth ≤ 3 := by
  have hheaders := Headers.depth_toJson r.headers
  simp only [Request.toJson, Json.depth, Json.depthMembers]
  omega

theorem Response.depth_toJson (r : Response) : r.toJson.depth ≤ 3 := by
  have hheaders := Headers.depth_toJson r.headers
  simp only [Response.toJson, Json.depth, Json.depthMembers]
  omega

namespace Resource

variable {r : Resource}

/-- Documents do not nest deep. -/
theorem depth_toJson (r : Resource) : r.toJson.depth ≤ 6 := by
  have hmappings : Json.depthMembers
      (r.spec.mappings.map fun e => (e.1.name, e.2.toJson)) ≤ 3 := by
    refine Json.depthMembers_le_iff.2 fun m hm => ?_
    obtain ⟨e, -, rfl⟩ := List.mem_map.1 hm
    exact e.2.depth_toJson
  have hheaders := Headers.depth_toJson r.spec.headers
  have hrequest := r.status.request.depth_toJson
  have hresponse := r.status.response.depth_toJson
  simp only [Resource.toJson, Specification.toJson, Payload.toJson, Status.toJson, Json.depth,
    Json.depthMembers]
  omega

/-- The two whole numbers of a document are the only scalars that may not be written. -/
theorem isWritable_of_toJson (hw : r.toJson.isWritable = true) : r.status.IsWritable := by
  simp only [Resource.toJson, Status.toJson, Response.toJson, Json.isWritable,
    Json.isWritableMembers, Bool.and_eq_true] at hw
  obtain ⟨-, -, ⟨-, ⟨hcode, -⟩, hfailed, -⟩, -⟩ := hw
  exact ⟨hcode, hfailed⟩

/-- A document without surrogate pairs can be read again if it can be written. -/
theorem isFaithful_toJson (h : r.IsTidy) (ht : ∀ t ∈ r.texts, t.IsUnpaired)
    (hw : r.toJson.isWritable = true) : r.toJson.IsFaithful := by
  simp only [Resource.texts, List.forall_mem_append, List.forall_mem_cons] at ht
  obtain ⟨⟨⟨⟨⟨hname, hurl, hbody, herror, -⟩, hmappings⟩, hheaders⟩, hrequest⟩, hresponse⟩ := ht
  have hnumbers := isWritable_of_toJson hw
  have hpayload : r.spec.payload.toJson.IsFaithful := by
    have hkeys : (["base_url", "body"] : List Text).Nodup := by decide
    exact ⟨hkeys, by decide, hurl, by decide, hbody, trivial⟩
  have hspec : r.spec.toJson.IsFaithful := by
    have hkeys :
        (["payload", "mappings", "headers", "insecure_skip_tls_verify"] : List Text).Nodup :=
      by decide
    have htable : (Json.obj (r.spec.mappings.map fun e => (e.1.name, e.2.toJson))).IsFaithful := by
      refine ⟨?_, Json.membersFaithful_iff.2 fun m hm => ?_⟩
      · have hnames := List.Nodup.map (fun _ _ => Method.name_injective) h.methods
        rwa [Entries.keys, List.map_map] at hnames ⊢
      · obtain ⟨e, he, rfl⟩ := List.mem_map.1 hm
        refine ⟨e.1.isUnpaired_name, Mapping.isFaithful_toJson (h.mappingHeaders e he) ?_⟩
        exact fun t hmem => hmappings t (List.mem_flatMap.2 ⟨e, he, hmem⟩)
    exact ⟨hkeys, by decide, hpayload, by decide, htable, by decide,
      Headers.isFaithful_toJson h.headers hheaders, by decide, trivial, trivial⟩
  have hstatus : r.status.toJson.IsFaithful := by
    have hkeys : (["request_details", "response", "failed", "error"] : List Text).Nodup := by decide
    exact ⟨hkeys, by decide, Request.isFaithful_toJson h.requestHeaders hrequest, by decide,
      Response.isFaithful_toJson h.responseHeaders hnumbers.code hresponse, by decide,
      hnumbers.failed, by decide, herror, trivial⟩
  have hkeys : (["name", "spec", "status"] : List Text).Nodup := by decide
  exact ⟨hkeys, by decide, hname, by decide, hspec, by decide, hstatus, trivial⟩

/-- **A stored document is the resource again.** -/
theorem decodeStored_document (h : r.IsTidy) (ht : ∀ t ∈ r.texts, t.IsUnpaired)
    (hw : r.toJson.isWritable = true) (step : Nat) :
    ∃ v, Json.decodeStored (Json.encodeIndented step 0 r.toJson) = .ok v ∧
      Resource.ofData (Data.ofJson v) = .ok r := by
  have hdepth : r.toJson.depth ≤ Json.maxOpen := Nat.le_trans r.depth_toJson (by decide)
  exact ⟨r.toJson, Json.decodeStored_encodeIndented (isFaithful_toJson h ht hw) hdepth,
    ofData_toJson h⟩

end Resource

end DesiredState
