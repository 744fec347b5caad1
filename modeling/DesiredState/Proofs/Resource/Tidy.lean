import DesiredState.Proofs.Json.Decoded
import DesiredState.Resource.Check
import Mathlib.Data.List.Forall2

/-!
# Tidy resources

What all resources have in common that the checks accept: their tables are tables, and a mapping
stands under the method that it declares.

* `Schema.Check.entries_eq_ok_iff`, `Schema.Check.table_ok`: what is known of a table that was
  checked.
* `Resource.IsTidy`: tables without repeated keys, and mappings in their places.
* `Resource.isTidy_of_ofData`: **what the checks accept is tidy.**
-/

namespace DesiredState

open Schema

namespace Schema

variable {α κ : Type} [DecidableEq κ] {name : Text} {check : Data → Checked α} {d : Data} {x : α}
  {entries : List (Key × Data)}

theorem Check.required_ok (h : Check.required name check entries = .ok x) :
    ∃ d, check d = .ok x := by
  rw [Check.required, Checked.within_eq_ok_iff] at h
  split at h
  · exact ⟨_, h⟩
  · cases h

/-- What holds of a default and of all that a check accepts holds of an optional field. -/
theorem Check.optional_ok {default : α} {p : α → Prop}
    (h : Check.optional name check default entries = .ok x) (hdefault : p default)
    (hcheck : ∀ {d}, check d = .ok x → p x) : p x := by
  unfold Check.optional at h
  split at h
  · exact hcheck (Checked.within_eq_ok_iff.1 h)
  · cases h
    exact hdefault

/-- All of a list are in order exactly if each one is. -/
theorem Checked.all_eq_ok_iff {cs : List (Checked α)} {xs : List α} :
    Checked.all cs = .ok xs ↔ cs = xs.map .ok := by
  induction cs generalizing xs with
  | nil =>
    rw [Checked.all, Except.ok.injEq, eq_comm, eq_comm (a := []), List.map_eq_nil_iff]
  | cons c cs ih =>
    rw [Checked.all, Checked.map_eq_ok_iff]
    constructor
    · rintro ⟨⟨x, xs⟩, hboth, rfl⟩
      obtain ⟨hx, hxs⟩ := Checked.both_eq_ok_iff.1 hboth
      rw [hx, ih.1 hxs, List.map_cons]
    · intro h
      obtain ⟨x, xs, rfl, rfl, rfl⟩ := List.map_eq_cons_iff.1 h.symm
      exact ⟨(x, xs), Checked.both_eq_ok_iff.2 ⟨rfl, ih.2 rfl⟩, rfl⟩

section Entries

variable {σ : Type} {key : Data → Checked κ} {value : σ → Checked α} {given : List (Key × σ)}
  {es : List (κ × α)}

omit [DecidableEq κ] in
theorem Check.entry_eq_ok_iff {g : Key × σ} {e : κ × α} :
    Check.entry key value g = .ok e ↔ key g.1.toData = .ok e.1 ∧ value g.2 = .ok e.2 := by
  rw [Check.entry, Checked.within_eq_ok_iff, Checked.both_eq_ok_iff, Checked.within_eq_ok_iff]

/-- Entries are in order exactly if the key and the value of each are; they are set one after the
other then. -/
theorem Check.entries_eq_ok_iff :
    Check.entries key value given = .ok es ↔
      ∃ pairs, List.Forall₂ (fun g e => key g.1.toData = .ok e.1 ∧ value g.2 = .ok e.2) given pairs ∧
        Entries.ofPairs pairs = es := by
  have hpairs : ∀ pairs, Checked.all (given.map (Check.entry key value)) = .ok pairs ↔
      List.Forall₂ (fun g e => key g.1.toData = .ok e.1 ∧ value g.2 = .ok e.2) given pairs := by
    intro pairs
    simp only [← Check.entry_eq_ok_iff]
    rw [Checked.all_eq_ok_iff, ← List.forall₂_eq_eq_eq, List.forall₂_map_left_iff,
      List.forall₂_map_right_iff]
  rw [Check.entries, Checked.map_eq_ok_iff]
  exact exists_congr fun pairs => and_congr_left fun _ => hpairs pairs

/-- Entries that were checked make a table without repeated keys, whose values were checked. -/
theorem Check.entries_ok (h : Check.entries key value given = .ok es) :
    (Entries.keys es).Nodup ∧ ∀ e ∈ es, ∃ g ∈ given, value g.2 = .ok e.2 := by
  rw [Check.entries, Checked.map_eq_ok_iff] at h
  obtain ⟨pairs, hall, rfl⟩ := h
  refine ⟨Entries.nodup_keys_ofPairs pairs,
    Entries.forall_ofPairs (p := fun x => ∃ g ∈ given, value g.2 = .ok x) fun e he => ?_⟩
  have hmem : .ok e ∈ given.map (Check.entry key value) :=
    Checked.all_eq_ok_iff.1 hall ▸ List.mem_map_of_mem he
  obtain ⟨g, hg, hentry⟩ := List.mem_map.1 hmem
  exact ⟨g, hg, (entry_eq_ok_iff.1 hentry).2⟩

end Entries

/-- A table that was checked does not repeat a key, and its values were checked. -/
theorem Check.table_ok {key : Data → Checked κ} {es : List (κ × α)}
    (h : Check.table key check d = .ok es) :
    (Entries.keys es).Nodup ∧ ∀ e ∈ es, ∃ d, check d = .ok e.2 := by
  unfold Check.table at h
  split at h
  · obtain ⟨hkeys, hvalues⟩ := entries_ok h
    exact ⟨hkeys, fun e he => (hvalues e he).elim fun g hg => ⟨g.2, hg.2⟩⟩
  · cases h

theorem Check.model_ok {model : Text} {fields : List (Key × Data) → Checked α}
    (h : Check.model model fields d = .ok x) : ∃ es, fields es = .ok x := by
  unfold Check.model at h
  split at h
  · exact ⟨_, h⟩
  · cases h

end Schema

/-- A resource as the checks make it: tables do not repeat a key, and each mapping stands under the
method that it declares. -/
structure Resource.IsTidy (r : Resource) : Prop where
  methods : (Entries.keys r.spec.mappings).Nodup
  declared : ∀ e ∈ r.spec.mappings, e.2.method = e.1
  mappingHeaders : ∀ e ∈ r.spec.mappings, (Entries.keys e.2.headers).Nodup
  headers : (Entries.keys r.spec.headers).Nodup
  requestHeaders : (Entries.keys r.status.request.headers).Nodup
  responseHeaders : (Entries.keys r.status.response.headers).Nodup

variable {d : Data}

theorem Headers.nodup_of_ofData {h : Headers} (hd : Headers.ofData d = .ok h) :
    (Entries.keys h).Nodup :=
  (Check.table_ok hd).1

theorem Headers.nodup_of_optional {name : Text} {entries : List (Key × Data)} {h : Headers}
    (hd : Check.optional name Headers.ofData [] entries = .ok h) : (Entries.keys h).Nodup :=
  Check.optional_ok (p := fun h : Headers => (Entries.keys h).Nodup) hd List.nodup_nil
    Headers.nodup_of_ofData

theorem Method.ofData_name (m : Method) : ofData (.str m.name) = .ok m := by
  simp only [ofData, ofName?_name]

theorem Mapping.nodup_of_ofData {m : Mapping} (h : Mapping.ofData d = .ok m) :
    (Entries.keys m.headers).Nodup := by
  obtain ⟨es, hfields⟩ := Check.model_ok h
  obtain ⟨⟨method, url, body, headers⟩, hparts, rfl⟩ := Checked.map_eq_ok_iff.1 hfields
  simp only [Checked.both_eq_ok_iff] at hparts
  exact Headers.nodup_of_optional hparts.2.2.2

theorem Request.nodup_of_ofData {r : Request} (h : Request.ofData d = .ok r) :
    (Entries.keys r.headers).Nodup := by
  obtain ⟨es, hfields⟩ := Check.model_ok h
  obtain ⟨⟨method, url, body, headers⟩, hparts, rfl⟩ := Checked.map_eq_ok_iff.1 hfields
  simp only [Checked.both_eq_ok_iff] at hparts
  exact Headers.nodup_of_optional hparts.2.2.2

theorem Response.nodup_of_ofData {r : Response} (h : Response.ofData d = .ok r) :
    (Entries.keys r.headers).Nodup := by
  obtain ⟨es, hfields⟩ := Check.model_ok h
  obtain ⟨⟨status, body, headers⟩, hparts, rfl⟩ := Checked.map_eq_ok_iff.1 hfields
  simp only [Checked.both_eq_ok_iff] at hparts
  exact Headers.nodup_of_optional hparts.2.2

/-- Headers in a status that was checked do not repeat a name. -/
theorem Status.nodup_of_ofData {s : Status} (h : Status.ofData d = .ok s) :
    (Entries.keys s.request.headers).Nodup ∧ (Entries.keys s.response.headers).Nodup := by
  obtain ⟨es, hfields⟩ := Check.model_ok h
  obtain ⟨⟨request, response, failed, error⟩, hparts, rfl⟩ := Checked.map_eq_ok_iff.1 hfields
  simp only [Checked.both_eq_ok_iff] at hparts
  obtain ⟨hrequest, hresponse, -⟩ := hparts
  exact ⟨Check.optional_ok (p := fun r : Request => (Entries.keys r.headers).Nodup) hrequest
      List.nodup_nil Request.nodup_of_ofData,
    Check.optional_ok (p := fun r : Response => (Entries.keys r.headers).Nodup) hresponse
      List.nodup_nil Response.nodup_of_ofData⟩

namespace Mapping

/-- The items of a list are put under methods as they are. -/
theorem map_snd_of_keyItems {taken : List Method} {items : List Source}
    {es : List (Key × Source)} (h : keyItems taken items = .ok es) : es.map Prod.snd = items := by
  induction items generalizing taken es with
  | nil =>
    cases h
    rfl
  | cons item items ih =>
    rw [keyItems] at h
    split at h
    · cases h
    split at h
    · cases h
    split at h
    · cases h
    next rest hrest =>
      cases h
      rw [List.map_cons, ih hrest]

/-- All mappings as they are given. -/
def Sources.all : Sources → List Source
  | .list items => items
  | .dict es => es.map Prod.snd
  | .other => []

theorem Sources.exists_of_mem_ofData {s : Source} (h : s ∈ (Sources.ofData d).all) :
    ∃ d', s = .data d' := by
  unfold Sources.ofData at h
  split at h
  · obtain ⟨d', -, rfl⟩ := List.mem_map.1 h
    exact ⟨d', rfl⟩
  · obtain ⟨e, he, rfl⟩ := List.mem_map.1 h
    obtain ⟨g, -, rfl⟩ := List.mem_map.1 he
    exact ⟨g.2, rfl⟩
  · cases h

/-- A table of mappings that are given does not repeat a method, and each of its mappings was
given. -/
theorem Sources.table_ok {sources : Sources} {es : List (Method × Mapping)}
    (h : sources.table = .ok es) :
    (Entries.keys es).Nodup ∧ ∀ e ∈ es, ∃ s ∈ sources.all, s.check = .ok e.2 := by
  unfold Sources.table at h
  split at h
  · next items =>
    split at h
    · cases h
    next given hgiven =>
      obtain ⟨hkeys, hvalues⟩ := Check.entries_ok h
      refine ⟨hkeys, fun e he => ?_⟩
      obtain ⟨g, hg, hcheck⟩ := hvalues e he
      have hmem : g.2 ∈ given.map Prod.snd := List.mem_map_of_mem hg
      rw [map_snd_of_keyItems hgiven] at hmem
      exact ⟨g.2, hmem, hcheck⟩
  · next given =>
    obtain ⟨hkeys, hvalues⟩ := Check.entries_ok h
    refine ⟨hkeys, fun e he => ?_⟩
    obtain ⟨g, hg, hcheck⟩ := hvalues e he
    exact ⟨g.2, List.mem_map_of_mem hg, hcheck⟩
  · cases h

theorem Sources.field_ok {sources? : Option Sources} {es : List (Method × Mapping)}
    (h : Sources.field sources? = .ok es) :
    (Entries.keys es).Nodup ∧
      ∀ e ∈ es, ∃ sources ∈ sources?, ∃ s ∈ sources.all, s.check = .ok e.2 := by
  cases sources? with
  | none =>
    cases h
    exact ⟨List.nodup_nil, List.forall_mem_nil _⟩
  | some sources =>
    obtain ⟨hkeys, hvalues⟩ := Sources.table_ok (Checked.within_eq_ok_iff.1 h)
    exact ⟨hkeys, fun e he => ⟨sources, rfl, hvalues e he⟩⟩

end Mapping

/-- A specification is settled as it is, if its mappings are in their places. -/
theorem Specification.settle_eq_ok_iff {s s' : Specification} :
    s.settle = .ok s' ↔ s' = s ∧ ∀ e ∈ s.mappings, e.2.method = e.1 := by
  have hplaces : Mapping.misplaced? s.mappings = none ↔ ∀ e ∈ s.mappings, e.2.method = e.1 := by
    unfold Mapping.misplaced?
    rw [List.find?_eq_none]
    simp
  rw [← hplaces, settle]
  cases Mapping.misplaced? s.mappings with
  | none => simp [eq_comm]
  | some e => simp [Checked.problem]

/-- A specification is made of fields that are in order, if each mapping declares its method. -/
theorem Specification.ofFields_eq_ok_iff {payload : Checked Payload}
    {mappings : Checked (List (Method × Mapping))} {headers : Checked Headers}
    {skip : Checked Bool} {s : Specification} :
    ofFields payload mappings headers skip = .ok s ↔
      (payload = .ok s.payload ∧ mappings = .ok s.mappings ∧ headers = .ok s.headers ∧
        skip = .ok s.skipTlsVerify) ∧ ∀ e ∈ s.mappings, e.2.method = e.1 := by
  rw [ofFields]
  constructor
  · intro h
    split at h
    · cases h
    next hparts =>
      simp only [Checked.both_eq_ok_iff] at hparts
      obtain ⟨rfl, hdeclared⟩ := settle_eq_ok_iff.1 h
      exact ⟨hparts, hdeclared⟩
  · rintro ⟨⟨rfl, rfl, rfl, rfl⟩, hdeclared⟩
    exact settle_eq_ok_iff.2 ⟨rfl, hdeclared⟩

/-- The tables of a specification that was checked. -/
theorem Specification.tables_of_ofData {s : Specification} (h : Specification.ofData d = .ok s) :
    (Entries.keys s.mappings).Nodup ∧ (∀ e ∈ s.mappings, e.2.method = e.1) ∧
      (∀ e ∈ s.mappings, (Entries.keys e.2.headers).Nodup) ∧ (Entries.keys s.headers).Nodup := by
  obtain ⟨es, hfields⟩ := Check.model_ok h
  obtain ⟨⟨-, hmappings, hheaders, -⟩, hdeclared⟩ := ofFields_eq_ok_iff.1 hfields
  obtain ⟨hkeys, hvalues⟩ := Mapping.Sources.field_ok hmappings
  refine ⟨hkeys, hdeclared, fun e he => ?_, Headers.nodup_of_optional hheaders⟩
  obtain ⟨sources, hsources, given, hgiven, hcheck⟩ := hvalues e he
  obtain ⟨d, -, rfl⟩ := Option.map_eq_some_iff.1 hsources
  obtain ⟨d', rfl⟩ := Mapping.Sources.exists_of_mem_ofData hgiven
  exact Mapping.nodup_of_ofData hcheck

/-- **What the checks accept is tidy.** -/
theorem Resource.isTidy_of_ofData {r : Resource} (h : Resource.ofData d = .ok r) : r.IsTidy := by
  unfold Resource.ofData at h
  split at h
  · next r' hcheck =>
    cases h
    obtain ⟨es, hfields⟩ := Check.model_ok hcheck
    obtain ⟨⟨name, spec, status⟩, hparts, rfl⟩ := Checked.map_eq_ok_iff.1 hfields
    simp only [Checked.both_eq_ok_iff] at hparts
    obtain ⟨-, hspec, hstatus⟩ := hparts
    obtain ⟨d, hd⟩ := Check.required_ok hspec
    obtain ⟨hmethods, hdeclared, hmappings, hheaders⟩ := Specification.tables_of_ofData hd
    have hstatus' : (Entries.keys status.request.headers).Nodup ∧
        (Entries.keys status.response.headers).Nodup :=
      Check.optional_ok (p := fun s : Status => (Entries.keys s.request.headers).Nodup ∧
        (Entries.keys s.response.headers).Nodup) hstatus ⟨List.nodup_nil, List.nodup_nil⟩
        Status.nodup_of_ofData
    exact ⟨hmethods, hdeclared, hmappings, hheaders, hstatus'.1, hstatus'.2⟩
  · cases h

end DesiredState
