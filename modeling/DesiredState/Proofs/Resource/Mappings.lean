import DesiredState.Proofs.Resource.Tidy
import Mathlib.Data.List.Forall2

/-!
# Mappings under their methods

However the mappings of a specification are given, each stands under the method that it declares, so
the mapping of a method is the one that declares it. A list is accepted exactly if its items are
mappings of distinct methods: an item whose method is spelled in another case is put under it, but is
no mapping, and what is a mapping is put under its own method.

* `Specification.IsKeyed`: each mapping under its method, and no two under one.
* `Resource.mappingOf?_iff_declares`: the mapping of a method in any case.
* `Mapping.Sources.table_list_iff`: **which lists of mappings are accepted, and what they make.**
* `Mapping.Sources.table_dict_of_list`: **a list comes to the same as entries under its methods.**
-/

namespace DesiredState

open Schema

/-- The mappings stand under the methods that they declare, no two of them under one. -/
structure Specification.IsKeyed (s : Specification) : Prop where
  methods : (Entries.keys s.mappings).Nodup
  declared : ∀ e ∈ s.mappings, e.2.method = e.1

theorem Specification.isKeyed_of_ofFields {payload : Checked Payload} {headers : Checked Headers}
    {skip : Checked Bool} {sources? : Option Mapping.Sources} {s : Specification}
    (h : ofFields payload (Mapping.Sources.field sources?) headers skip = .ok s) : s.IsKeyed := by
  obtain ⟨⟨-, hmappings, -⟩, hdeclared⟩ := ofFields_eq_ok_iff.1 h
  exact ⟨(Mapping.Sources.field_ok hmappings).1, hdeclared⟩

/-- The mapping of a method, named in any case, is the one that declares the method. -/
theorem Resource.mappingOf?_iff_declares {r : Resource} (h : r.spec.IsKeyed) {t : Text}
    {mapping : Mapping} :
    r.mappingOf? t = some mapping ↔
      mapping ∈ r.spec.mappings.map Prod.snd ∧ Text.upper t = mapping.method.name := by
  rw [mappingOf?, Option.bind_eq_some_iff]
  constructor
  · rintro ⟨m, hm, hfind⟩
    have hmem := Entries.mem_of_find? hfind
    have hmethod : mapping.method = m := h.declared _ hmem
    rw [hmethod]
    exact ⟨List.mem_map_of_mem hmem, Method.ofName?_eq_some_iff.1 hm⟩
  · rintro ⟨hmapping, hname⟩
    obtain ⟨⟨m, mapping⟩, hmem, rfl⟩ := List.mem_map.1 hmapping
    obtain rfl : mapping.method = m := h.declared _ hmem
    exact ⟨_, Method.ofName?_eq_some_iff.2 hname, Entries.find?_of_mem h.methods hmem⟩

theorem Method.upper_name (m : Method) : Text.upper m.name = m.name := by
  cases m <;> decide +kernel

theorem Method.ofData_eq_ok_iff {d : Data} {m : Method} : ofData d = .ok m ↔ d = .str m.name := by
  constructor
  · intro h
    unfold ofData at h
    split at h
    · next s =>
      split at h
      · next hname =>
        cases h
        rw [ofName?_eq_some_iff.1 hname]
      · cases h
    · cases h
  · rintro rfl
    exact ofData_name m

namespace Mapping

variable {item : Source} {items : List Source} {taken : List Method} {mapping : Mapping}
  {ms : List Mapping} {table : List (Method × Mapping)}

/-! ### The method of an item -/

/-- The text that an item has for its method; it is empty when there is none. -/
def Source.methodText : Source → Text
  | .made mapping => mapping.method.name
  | .data (.dict es) =>
    match Data.find? "method" es with
    | some (.str t) => t
    | _ => []
  | .data _ => []

/-- Data that is a mapping has the exact name of its method. -/
theorem find?_method_of_ofData {d : Data} (h : Mapping.ofData d = .ok mapping) :
    ∃ es, d = .dict es ∧ Data.find? "method" es = some (.str mapping.method.name) := by
  unfold Mapping.ofData Check.model at h
  split at h
  · next es =>
    obtain ⟨⟨method, url, body, headers⟩, hparts, rfl⟩ := Checked.map_eq_ok_iff.1 h
    obtain ⟨hmethod, -⟩ := Checked.both_eq_ok_iff.1 hparts
    rw [Check.required, Checked.within_eq_ok_iff] at hmethod
    split at hmethod
    · next d hfind =>
      rw [Method.ofData_eq_ok_iff] at hmethod
      exact ⟨es, rfl, hmethod ▸ hfind⟩
    · cases hmethod
  · cases h

theorem Source.methodText_of_check (h : item.check = .ok mapping) :
    item.methodText = mapping.method.name := by
  cases item with
  | made m =>
    cases h
    rfl
  | data d =>
    obtain ⟨es, rfl, hfind⟩ := find?_method_of_ofData h
    rw [methodText, hfind]

/-- What is a mapping is put under its own method. -/
theorem Source.listedUnder_of_check (h : item.check = .ok mapping) :
    item.listedUnder = .ok mapping.method := by
  cases item with
  | made m =>
    cases h
    rfl
  | data d =>
    obtain ⟨es, rfl, hfind⟩ := find?_method_of_ofData h
    have hname : Method.ofText? mapping.method.name = some mapping.method :=
      Method.ofName?_eq_some_iff.2 (Method.upper_name _)
    simp only [listedUnder, methodOfItem, hfind, Option.getD_some, hname]

/-! ### Lists -/

theorem keyItems_cons_eq_ok_iff {es : List (Key × Source)} :
    keyItems taken (item :: items) = .ok es ↔
      ∃ m rest, item.listedUnder = .ok m ∧ m ∉ taken ∧ keyItems (m :: taken) items = .ok rest ∧
        es = (.str m.name, item) :: rest := by
  rw [keyItems]
  cases item.listedUnder with
  | error f => simp
  | ok m =>
    by_cases hm : m ∈ taken
    · simp [hm]
    · cases hrest : keyItems (m :: taken) items with
      | error f => simp [hm, hrest]
      | ok rest => simp [hm, hrest, eq_comm]

/-- What a list puts under a method is in order there exactly if it is a mapping of the method. -/
theorem listed_entry_iff {m : Method} {e : Method × Mapping} (hm : item.listedUnder = .ok m) :
    Method.ofData (.str m.name) = .ok e.1 ∧ item.check = .ok e.2 ↔
      item.check = .ok e.2 ∧ m = e.2.method ∧ e = (e.2.method, e.2) := by
  constructor
  · rintro ⟨hkey, hcheck⟩
    have hmethod := Source.listedUnder_of_check hcheck
    rw [hm, Except.ok.injEq] at hmethod
    rw [Method.ofData_name, Except.ok.injEq] at hkey
    refine ⟨hcheck, hmethod, ?_⟩
    rw [← hmethod, hkey]
  · rintro ⟨hcheck, rfl, he⟩
    rw [he]
    exact ⟨Method.ofData_name _, hcheck⟩

/-- The entries of a list are in order exactly if its items are mappings of distinct methods, none
of them taken, and then they stand under these. -/
theorem keyItems_checked_iff {es : List (Method × Mapping)} :
    (∃ given, keyItems taken items = .ok given ∧
        List.Forall₂ (fun g e => Method.ofData g.1.toData = .ok e.1 ∧ g.2.check = .ok e.2)
          given es) ↔
      ∃ ms, List.Forall₂ (fun item m => item.check = .ok m) items ms ∧
        (ms.map Mapping.method).Nodup ∧ (ms.map Mapping.method).Disjoint taken ∧
        es = ms.map fun m => (m.method, m) := by
  induction items generalizing taken es with
  | nil =>
    constructor
    · rintro ⟨given, hgiven, hes⟩
      cases hgiven
      cases hes
      exact ⟨[], .nil, List.nodup_nil, List.disjoint_nil_left _, rfl⟩
    · rintro ⟨ms, hms, -, -, rfl⟩
      cases hms
      exact ⟨[], rfl, .nil⟩
  | cons item items ih =>
    -- the method of the item is one more that is taken for the items behind it
    constructor
    · rintro ⟨given, hgiven, hes⟩
      obtain ⟨m, rest, hm, htaken, hrest, rfl⟩ := keyItems_cons_eq_ok_iff.1 hgiven
      obtain ⟨e, es, hentry, hentries, rfl⟩ := List.forall₂_cons_left_iff.1 hes
      obtain ⟨hcheck, rfl, he⟩ := (listed_entry_iff hm).1 hentry
      obtain ⟨ms, hms, hnodup, hapart, rfl⟩ := ih.1 ⟨rest, hrest, hentries⟩
      obtain ⟨hnew, hapart⟩ := List.disjoint_cons_right.1 hapart
      refine ⟨e.2 :: ms, .cons hcheck hms, List.nodup_cons.2 ⟨hnew, hnodup⟩,
        List.disjoint_cons_left.2 ⟨htaken, hapart⟩, ?_⟩
      rw [List.map_cons, ← he]
    · rintro ⟨ms, hms, hnodup, hapart, rfl⟩
      obtain ⟨m, ms, hcheck, hmappings, rfl⟩ := List.forall₂_cons_left_iff.1 hms
      obtain ⟨hnew, hnodup⟩ := List.nodup_cons.1 hnodup
      obtain ⟨htaken, hapart⟩ := List.disjoint_cons_left.1 hapart
      obtain ⟨rest, hrest, hes⟩ :=
        ih.2 ⟨ms, hmappings, hnodup, List.disjoint_cons_right.2 ⟨hnew, hapart⟩, rfl⟩
      have hm := Source.listedUnder_of_check hcheck
      exact ⟨_, keyItems_cons_eq_ok_iff.2 ⟨m.method, rest, hm, htaken, hrest, rfl⟩,
        .cons ((listed_entry_iff hm).2 ⟨hcheck, rfl, rfl⟩) hes⟩

/-- Mappings of distinct methods make the entries that they are. -/
theorem ofPairs_methods (h : (ms.map Mapping.method).Nodup) :
    Entries.ofPairs (ms.map fun m => (m.method, m)) = ms.map fun m => (m.method, m) := by
  have hkeys : Entries.keys (ms.map fun m => (m.method, m)) = ms.map Mapping.method := by
    rw [Entries.keys, List.map_map]
    rfl
  exact Entries.ofPairs_of_nodup (hkeys ▸ h)

/-- **Which lists of mappings are accepted, and what they make**: the items are mappings of distinct
methods, and stand under these in the order of the list. -/
theorem Sources.table_list_iff :
    (Sources.list items).table = .ok table ↔
      ∃ ms, List.Forall₂ (fun item m => item.check = .ok m) items ms ∧
        (ms.map Mapping.method).Nodup ∧ table = ms.map fun m => (m.method, m) := by
  have hentries : (Sources.list items).table = .ok table ↔
      ∃ es, (∃ given, keyItems [] items = .ok given ∧
          List.Forall₂ (fun g e => Method.ofData g.1.toData = .ok e.1 ∧ g.2.check = .ok e.2)
            given es) ∧
        Entries.ofPairs es = table := by
    rw [Sources.table]
    cases keyItems [] items with
    | error f => simp [Checked.problem]
    | ok given => simp [Check.entries_eq_ok_iff]
  rw [hentries]
  constructor
  · rintro ⟨es, hes, rfl⟩
    obtain ⟨ms, hms, hnodup, -, rfl⟩ := keyItems_checked_iff.1 hes
    exact ⟨ms, hms, hnodup, ofPairs_methods hnodup⟩
  · rintro ⟨ms, hms, hnodup, rfl⟩
    have hchecked := keyItems_checked_iff.2
      ⟨ms, hms, hnodup, List.disjoint_nil_right _, rfl⟩
    exact ⟨_, hchecked, ofPairs_methods hnodup⟩

/-- **A list comes to the same as entries under the methods of its items.** -/
theorem Sources.table_dict_of_list (h : (Sources.list items).table = .ok table) :
    (Sources.dict (items.map fun item => (.str item.methodText, item))).table = .ok table := by
  obtain ⟨ms, hms, hnodup, rfl⟩ := table_list_iff.1 h
  rw [Sources.table, Check.entries_eq_ok_iff]
  refine ⟨ms.map fun m => (m.method, m), ?_, ofPairs_methods hnodup⟩
  rw [List.forall₂_map_left_iff, List.forall₂_map_right_iff]
  refine hms.imp fun item m hcheck => ?_
  rw [Source.methodText_of_check hcheck]
  exact ⟨Method.ofData_name _, hcheck⟩

end Mapping

/-! ### Specifications -/

namespace Specification

variable {payload : Checked Payload} {headers : Checked Headers} {skip : Checked Bool}
  {items : List Mapping.Source} {s : Specification}

/-- With the other fields in order, a list is accepted exactly if its items are mappings of distinct
methods. -/
theorem ofFields_list_iff {p : Payload} {h : Headers} {b : Bool} :
    ofFields (.ok p) (Mapping.Sources.field (some (.list items))) (.ok h) (.ok b) = .ok s ↔
      ∃ ms, List.Forall₂ (fun item m => item.check = .ok m) items ms ∧
        (ms.map Mapping.method).Nodup ∧ s = ⟨p, ms.map fun m => (m.method, m), h, b⟩ := by
  rw [ofFields_eq_ok_iff, Mapping.Sources.field, Checked.within_eq_ok_iff,
    Mapping.Sources.table_list_iff]
  constructor
  · rintro ⟨⟨hp, ⟨ms, hms, hnodup, htable⟩, hh, hb⟩, -⟩
    cases hp
    cases hh
    cases hb
    exact ⟨ms, hms, hnodup, by rw [← htable]⟩
  · rintro ⟨ms, hms, hnodup, rfl⟩
    refine ⟨⟨rfl, ⟨ms, hms, hnodup, rfl⟩, rfl, rfl⟩, fun e he => ?_⟩
    obtain ⟨m, -, rfl⟩ := List.mem_map.1 he
    rfl

/-- A list that is accepted may be given as entries under the methods of its items. -/
theorem ofFields_dict_of_list
    (h : ofFields payload (Mapping.Sources.field (some (.list items))) headers skip = .ok s) :
    ofFields payload (Mapping.Sources.field
      (some (.dict (items.map fun item => (.str item.methodText, item))))) headers skip = .ok s := by
  rw [ofFields_eq_ok_iff, Mapping.Sources.field, Checked.within_eq_ok_iff] at h ⊢
  obtain ⟨⟨hpayload, htable, hrest⟩, hdeclared⟩ := h
  exact ⟨⟨hpayload, Mapping.Sources.table_dict_of_list htable, hrest⟩, hdeclared⟩

/-- **The table of mappings**, whatever the checks of the other fields come to; `ofData` and
`ofMappings` make specifications in this way. In one that is accepted each mapping stands under the
method that it declares and no two under one, so that the mapping of a method, named in any case, is
the one that declares it. A list is accepted exactly if its items are mappings of distinct methods,
in whose order they stand then; and it comes to the same as entries under these methods. -/
theorem keyed_by_method (payload : Checked Payload) (headers : Checked Headers)
    (skip : Checked Bool) :
    (∀ sources? s, ofFields payload (Mapping.Sources.field sources?) headers skip = .ok s →
        s.IsKeyed ∧ ∀ r : Resource, r.spec = s → ∀ t mapping,
          (r.mappingOf? t = some mapping ↔
            mapping ∈ s.mappings.map Prod.snd ∧ Text.upper t = mapping.method.name)) ∧
      (∀ p h b items s, payload = .ok p → headers = .ok h → skip = .ok b →
        (ofFields payload (Mapping.Sources.field (some (.list items))) headers skip = .ok s ↔
          ∃ ms, List.Forall₂ (fun item m => item.check = .ok m) items ms ∧
            (ms.map Mapping.method).Nodup ∧ s = ⟨p, ms.map fun m => (m.method, m), h, b⟩)) ∧
      ∀ items s,
        ofFields payload (Mapping.Sources.field (some (.list items))) headers skip = .ok s →
          ofFields payload (Mapping.Sources.field
            (some (.dict (items.map fun item => (.str item.methodText, item))))) headers skip =
              .ok s := by
  refine ⟨fun sources? s h => ?_, ?_, fun items s => ofFields_dict_of_list⟩
  · have hkeyed := isKeyed_of_ofFields h
    refine ⟨hkeyed, ?_⟩
    rintro r rfl t mapping
    exact Resource.mappingOf?_iff_declares hkeyed
  · rintro p h b items s rfl rfl rfl
    exact ofFields_list_iff

/-- A mapping that is made already. -/
def replacing : Mapping := ⟨.put, [], "x", []⟩

/-- Data of a mapping, and one that is made already. -/
def mixedItems : List Mapping.Source :=
  [.data (.dict [(.str "method", .str "GET")]), .made replacing]

/-- What these items make. -/
def ofMixedItems : Specification :=
  ⟨⟨"u", []⟩, [(.get, ⟨.get, [], [], []⟩), (.put, replacing)], [], false⟩

/-- The law at a list of both kinds of items. -/
theorem keyed_by_method_mixed :
    ofFields (.ok ⟨"u", []⟩) (Mapping.Sources.field (some (.list mixedItems))) (.ok []) (.ok false) =
        .ok ofMixedItems ∧
      ofFields (.ok ⟨"u", []⟩) (Mapping.Sources.field
          (some (.dict (mixedItems.map fun item => (.str item.methodText, item))))) (.ok [])
          (.ok false) = .ok ofMixedItems ∧
      ∀ r : Resource, r.spec = ofMixedItems → r.mappingOf? "put" = some replacing := by
  obtain ⟨hkeyed, hlist, hdict⟩ := keyed_by_method (.ok ⟨"u", []⟩) (.ok []) (.ok false)
  have haccepted := (hlist ⟨"u", []⟩ [] false mixedItems ofMixedItems rfl rfl rfl).2
    ⟨[⟨.get, [], [], []⟩, replacing], .cons rfl (.cons rfl .nil), by decide, rfl⟩
  refine ⟨haccepted, hdict mixedItems ofMixedItems haccepted, fun r hr => ?_⟩
  have hput : replacing ∈ ofMixedItems.mappings.map Prod.snd := by decide
  exact ((hkeyed _ _ haccepted).2 r hr _ _).2 ⟨hput, by decide +kernel⟩

end Specification

end DesiredState
