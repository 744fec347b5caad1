import DesiredState.Proofs.Resource.Resolution

/-!
# Requests that do not depend on the last response

The status of a resource is seen by its templates through the last response only. A request whose
templates do not read it is the same whatever was recorded.

* `Resource.ReadsResponse`: a template of the request reads the last response.
* `Resource.resolve_congr`, `Resource.resolveNamed_congr`: **without that, the request does not
  depend on the status.**
-/

namespace DesiredState

namespace Resource

variable {r r' : Resource} {m : Mapping} {method : Method} {c c' : Json}

/-- A template of the request of a method has a path into the last response, or the bare path `.`,
which is the whole context. -/
def ReadsResponse (r : Resource) (method : Method) : Prop :=
  ∃ m, r.mapping? method = some m ∧ ∃ path ∈ r.paths m, Path.Reads "response" path

instance (r : Resource) (method : Method) : Decidable (r.ReadsResponse method) :=
  match h : r.mapping? method with
  | none => isFalse (by simp [ReadsResponse, h])
  | some m => decidable_of_iff (∃ path ∈ r.paths m, Path.Reads "response" path)
      (by simp [ReadsResponse, h])

theorem renderValues_congr {values : List Text}
    (h : ∀ t ∈ values, ∀ path ∈ Template.paths t, Path.lookup c path = Path.lookup c' path) :
    renderValues c values = renderValues c' values := by
  induction values with
  | nil => rfl
  | cons v vs ih =>
    obtain ⟨hv, hvs⟩ := List.forall_mem_cons.1 h
    unfold renderValues
    rw [Template.render_congr hv, ih hvs]

theorem renderHeaders_congr {headers : Headers}
    (h : ∀ t ∈ headers.flatMap Prod.snd, ∀ path ∈ Template.paths t,
      Path.lookup c path = Path.lookup c' path) :
    renderHeaders c headers = renderHeaders c' headers := by
  induction headers with
  | nil => rfl
  | cons header hs ih =>
    obtain ⟨name, values⟩ := header
    rw [List.flatMap_cons] at h
    have hvalues := renderValues_congr fun t ht => h t (List.mem_append_left _ ht)
    have hrest := ih fun t ht => h t (List.mem_append_right _ ht)
    unfold renderHeaders
    rw [hvalues, hrest]

/-- What is rendered depends on the declaration and on what the paths lead to. -/
theorem renderMapping_congr (hspec : r.spec = r'.spec)
    (h : ∀ path ∈ r.paths m, Path.lookup r.context path = Path.lookup r'.context path) :
    r.renderMapping m = r'.renderMapping m := by
  have htemplates : ∀ t ∈ r.templates m, ∀ path ∈ Template.paths t,
      Path.lookup r.context path = Path.lookup r'.context path :=
    fun t ht path hpath => h path (List.mem_flatMap.2 ⟨t, ht, hpath⟩)
  obtain ⟨hurl, hrest⟩ := List.forall_mem_cons.1 htemplates
  obtain ⟨hbody, hheaders⟩ := List.forall_mem_cons.1 hrest
  have hurl' : r.urlTemplate m = r'.urlTemplate m := by rw [urlTemplate, urlTemplate, hspec]
  have hheaders' : r.effectiveHeaders m = r'.effectiveHeaders m := by
    rw [effectiveHeaders, effectiveHeaders, hspec]
  unfold renderMapping
  dsimp only
  rw [Template.render_congr hurl, Template.render_congr hbody, renderHeaders_congr hheaders, hurl',
    hheaders']

/-- The contexts of two statuses agree outside the last response. -/
theorem lookup_context_congr (hspec : r.spec = r'.spec) {path : Text} (hne : path ≠ [])
    (h : ¬ Path.Reads "response" path) :
    Path.lookup r.context path = Path.lookup r'.context path := by
  unfold context
  dsimp only
  rw [hspec]
  refine Path.lookup_congr (fun k hk => ?_) hne h
  unfold Entries.find?
  by_cases hpayload : ("payload" : Text) = k
  · rw [if_pos hpayload, if_pos hpayload]
  · rw [if_neg hpayload, if_neg hpayload]
    unfold Entries.find?
    rw [if_neg (Ne.symm hk), if_neg (Ne.symm hk)]

/-- **A request whose templates do not read the last response does not depend on the status**: it
resolves to the same, or fails in the same way. -/
theorem resolve_congr (hspec : r.spec = r'.spec) (h : ¬ r.ReadsResponse method) :
    r.resolve method = r'.resolve method := by
  have hmapping : r.mapping? method = r'.mapping? method := by rw [mapping?, mapping?, hspec]
  unfold resolve
  rw [← hmapping]
  cases hm : r.mapping? method with
  | none => rfl
  | some m =>
    have hrender : r.renderMapping m = r'.renderMapping m := by
      refine renderMapping_congr hspec fun path hpath => ?_
      obtain ⟨t, -, ht⟩ := List.mem_flatMap.1 hpath
      refine lookup_context_congr hspec (Template.ne_nil_of_mem_paths ht) fun hreads => ?_
      exact h ⟨m, hm, path, hpath, hreads⟩
    dsimp only
    unfold generate
    rw [hrender]

/-- The same for the name of a method in any case. -/
theorem resolveNamed_congr {name : Text} (hspec : r.spec = r'.spec)
    (h : ∀ method, Text.upper name = method.name → ¬ r.ReadsResponse method) :
    r.resolveNamed name = r'.resolveNamed name := by
  by_cases hname : ∃ method : Method, Text.upper name = method.name
  · obtain ⟨method, hmethod⟩ := hname
    rw [resolveNamed_eq_resolve hmethod, resolveNamed_eq_resolve hmethod,
      resolve_congr hspec (h method hmethod)]
  · have hnone : ∀ method : Method, Text.upper name ≠ method.name := not_exists.1 hname
    rw [resolveNamed_of_no_mapping fun method m hmethod => absurd hmethod (hnone method),
      resolveNamed_of_no_mapping fun method m hmethod => absurd hmethod (hnone method)]

end Resource

end DesiredState
