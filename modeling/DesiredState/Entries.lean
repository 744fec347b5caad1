/-!
# Entries in order

A finite map as a list of pairs. The place of a key is where it was first set, and its value is
the one set last; this is the order in which members, headers and mappings are kept and written.

* `Entries.find?`: the value of a key.
* `Entries.set`: one key set.
* `Entries.ofPairs`, `Entries.merge`: many keys set, one after the other.
* `Entries.keys_merge`, `Entries.find?_merge`: the keys and the values of overridden entries.
-/

namespace DesiredState.Entries

variable {κ α : Type} [DecidableEq κ]

/-- The value of a key. -/
def find? (k : κ) : List (κ × α) → Option α
  | [] => none
  | (k', v) :: rest => if k' = k then some v else find? k rest

/-- The entries with `k` set to `v`, in its place if it had one and at the end otherwise. -/
def set (k : κ) (v : α) : List (κ × α) → List (κ × α)
  | [] => [(k, v)]
  | (k', v') :: rest => if k' = k then (k', v) :: rest else (k', v') :: set k v rest

/-- The entries `base` with the pairs `new` set one after the other. -/
def merge (base new : List (κ × α)) : List (κ × α) :=
  new.foldl (fun es (k, v) => set k v es) base

/-- The pairs set one after the other. -/
def ofPairs (pairs : List (κ × α)) : List (κ × α) := merge [] pairs

/-- The keys in order. -/
def keys (es : List (κ × α)) : List κ := es.map Prod.fst

@[simp] theorem find?_nil (k : κ) : find? k ([] : List (κ × α)) = none := rfl

theorem find?_set (k k' : κ) (v : α) (es : List (κ × α)) :
    find? k (set k' v es) = if k' = k then some v else find? k es := by
  induction es with
  | nil => simp [set, find?]
  | cons e es ih =>
    obtain ⟨a, b⟩ := e
    by_cases h : a = k'
    · subst h; by_cases hk : a = k <;> simp [set, find?, hk]
    · by_cases hk : a = k
      · subst hk; simp [set, find?, h, Ne.symm h]
      · simp [set, find?, h, hk, ih]

theorem find?_eq_none_iff {k : κ} {es : List (κ × α)} : find? k es = none ↔ k ∉ keys es := by
  induction es with
  | nil => simp [keys]
  | cons e es ih =>
    obtain ⟨a, b⟩ := e
    by_cases h : a = k
    · simp [find?, keys, h]
    · simp only [keys] at ih
      simp only [find?, keys, h, if_false, ih, List.map_cons, List.mem_cons, not_or]
      exact ⟨fun hn => ⟨Ne.symm h, hn⟩, And.right⟩

theorem keys_set (k : κ) (v : α) (es : List (κ × α)) :
    keys (set k v es) = if k ∈ keys es then keys es else keys es ++ [k] := by
  induction es with
  | nil => simp [set, keys]
  | cons e es ih =>
    obtain ⟨a, b⟩ := e
    by_cases h : a = k
    · simp [set, keys, h]
    · simp only [keys] at ih
      by_cases hm : k ∈ es.map Prod.fst
      · simp_all [set, keys]
      · simp_all [set, keys, Ne.symm h]

theorem nodup_keys_set {k : κ} {v : α} {es : List (κ × α)} (h : (keys es).Nodup) :
    (keys (set k v es)).Nodup := by
  rw [keys_set]
  split
  · exact h
  · next hk =>
    rw [List.nodup_append]
    exact ⟨h, by simp, fun a ha b hb => by simp at hb; rintro rfl; exact hk (hb ▸ ha)⟩

theorem nodup_keys_merge {base new : List (κ × α)} (h : (keys base).Nodup) :
    (keys (merge base new)).Nodup := by
  induction new generalizing base with
  | nil => exact h
  | cons e new ih => exact ih (nodup_keys_set h)

theorem nodup_keys_ofPairs (pairs : List (κ × α)) : (keys (ofPairs pairs)).Nodup :=
  nodup_keys_merge List.nodup_nil

theorem set_of_not_mem {k : κ} {v : α} {es : List (κ × α)} (h : k ∉ keys es) :
    set k v es = es ++ [(k, v)] := by
  induction es with
  | nil => rfl
  | cons e es ih =>
    obtain ⟨a, b⟩ := e
    have hne : a ≠ k := fun hak => h (hak ▸ List.mem_cons_self)
    have hrest : k ∉ keys es := fun hk => h (List.mem_cons_of_mem _ hk)
    rw [set, if_neg hne, ih hrest]
    rfl

/-- New keys come behind the entries that are there. -/
theorem merge_of_nodup {base new : List (κ × α)} (h : (keys (base ++ new)).Nodup) :
    merge base new = base ++ new := by
  induction new generalizing base with
  | nil => exact (List.append_nil base).symm
  | cons e new ih =>
    obtain ⟨k, v⟩ := e
    have hassoc : base ++ (k, v) :: new = base ++ [(k, v)] ++ new := by
      rw [List.append_assoc, List.singleton_append]
    have hk : k ∉ keys base := by
      rw [keys, List.map_append, List.nodup_append] at h
      exact fun hmem => h.2.2 k hmem k List.mem_cons_self rfl
    have hnext := ih (hassoc ▸ h)
    rw [← set_of_not_mem hk] at hnext
    rw [hassoc, ← set_of_not_mem hk]
    exact hnext

/-- Entries without a repeated key are the same when they are set one after the other. -/
theorem ofPairs_of_nodup {es : List (κ × α)} (h : (keys es).Nodup) : ofPairs es = es :=
  merge_of_nodup h

/-! ### Where a value comes from -/

section Values

variable {p : α → Prop} {k k' : κ} {v : α} {es base new : List (κ × α)}

theorem mem_of_find? (h : find? k es = some v) : (k, v) ∈ es := by
  induction es with
  | nil => cases h
  | cons e es ih =>
    obtain ⟨a, b⟩ := e
    unfold find? at h
    split at h
    · next hk =>
      cases h
      exact hk ▸ List.mem_cons_self
    · exact List.mem_cons_of_mem _ (ih h)

/-- Without a repeated key, each entry has the value of its key. -/
theorem find?_of_mem (hn : (keys es).Nodup) (h : (k, v) ∈ es) : find? k es = some v := by
  induction es with
  | nil => cases h
  | cons e es ih =>
    obtain ⟨a, b⟩ := e
    rw [keys, List.map_cons, List.nodup_cons] at hn
    rcases List.mem_cons.1 h with heq | hmem
    · cases heq
      rw [find?, if_pos rfl]
    · have hne : a ≠ k := fun hak => hn.1 (List.mem_map.2 ⟨(k, v), hmem, hak.symm⟩)
      rw [find?, if_neg hne]
      exact ih hn.2 hmem

/-- Without the entries of a key, every other key has the value that it had. -/
theorem find?_filter_ne :
    find? k' (es.filter fun e => decide (e.1 ≠ k)) = if k = k' then none else find? k' es := by
  induction es with
  | nil => split <;> rfl
  | cons e es ih =>
    obtain ⟨a, b⟩ := e
    by_cases ha : a = k
    · subst ha
      rw [List.filter_cons_of_neg (by simp), ih]
      by_cases hk : a = k'
      · rw [if_pos hk, if_pos hk]
      · rw [if_neg hk, if_neg hk, find?, if_neg hk]
    · rw [List.filter_cons_of_pos (by simpa using ha)]
      unfold find?
      by_cases hak : a = k'
      · subst hak
        rw [if_pos rfl, if_pos rfl, if_neg (Ne.symm ha)]
      · rw [if_neg hak, if_neg hak, ih]

theorem forall_set (hv : p v) (hes : ∀ e ∈ es, p e.2) : ∀ e ∈ set k v es, p e.2 := by
  induction es with
  | nil => simpa [set] using hv
  | cons e es ih =>
    obtain ⟨a, b⟩ := e
    obtain ⟨hb, hrest⟩ := List.forall_mem_cons.1 hes
    unfold set
    split
    · exact List.forall_mem_cons.2 ⟨hv, hrest⟩
    · exact List.forall_mem_cons.2 ⟨hb, ih hrest⟩

/-- Values set one after the other come from the base or from the new pairs. -/
theorem forall_merge (hbase : ∀ e ∈ base, p e.2) (hnew : ∀ e ∈ new, p e.2) :
    ∀ e ∈ merge base new, p e.2 := by
  induction new generalizing base with
  | nil => exact hbase
  | cons e new ih =>
    obtain ⟨he, hrest⟩ := List.forall_mem_cons.1 hnew
    exact ih (forall_set he hbase) hrest

theorem forall_ofPairs (h : ∀ e ∈ new, p e.2) : ∀ e ∈ ofPairs new, p e.2 :=
  forall_merge (by simp) h

end Values

/-! ### Entries that are overridden -/

section Override

variable {k : κ} {es es' base new : List (κ × α)}

/-- A key has its new value if it has one. -/
theorem find?_merge (hn : (keys new).Nodup) :
    find? k (merge base new) = (find? k new).or (find? k base) := by
  induction new generalizing base with
  | nil => rfl
  | cons e new ih =>
    obtain ⟨a, b⟩ := e
    obtain ⟨ha, hnew⟩ := List.nodup_cons.1 hn
    have hstep : merge base ((a, b) :: new) = merge (set a b base) new := rfl
    rw [hstep, ih hnew, find?_set, find?]
    by_cases hak : a = k
    · subst hak
      rw [if_pos rfl, if_pos rfl, find?_eq_none_iff.2 ha]
      rfl
    · rw [if_neg hak, if_neg hak]

/-- Keys that were not there come behind the others, in their order. -/
theorem keys_merge (hn : (keys new).Nodup) :
    keys (merge base new) = keys base ++ (keys new).filter fun k => (find? k base).isNone := by
  induction new generalizing base with
  | nil => exact (List.append_nil _).symm
  | cons e new ih =>
    obtain ⟨a, b⟩ := e
    obtain ⟨ha, hnew⟩ := List.nodup_cons.1 hn
    have hstep : merge base ((a, b) :: new) = merge (set a b base) new := rfl
    have hkeys : keys ((a, b) :: new) = a :: keys new := rfl
    -- the key that is set is not one of the others
    have hsame : (keys new).filter (fun k => (find? k (set a b base)).isNone) =
        (keys new).filter fun k => (find? k base).isNone := by
      refine List.filter_congr fun k hk => ?_
      have hak : a ≠ k := fun h => ha (h ▸ hk)
      rw [find?_set, if_neg hak]
    rw [hstep, ih hnew, hsame, keys_set, hkeys]
    by_cases hmem : a ∈ keys base
    · have hsome : ¬ (find? a base).isNone = true := by
        rw [Option.isNone_iff_eq_none, find?_eq_none_iff]
        exact Classical.not_not.2 hmem
      rw [if_pos hmem, List.filter_cons, if_neg hsome]
    · have hnone : (find? a base).isNone = true := by
        rw [find?_eq_none_iff.2 hmem]
        rfl
      rw [if_neg hmem, List.filter_cons, if_pos hnone, List.append_assoc, List.singleton_append]

/-- Without a repeated key, entries are known by their keys in order and by the values of these. -/
theorem ext_of_nodup (hkeys : keys es = keys es') (hn : (keys es).Nodup)
    (hfind : ∀ k, find? k es = find? k es') : es = es' := by
  induction es generalizing es' with
  | nil => exact (List.map_eq_nil_iff.1 hkeys.symm).symm
  | cons e es ih =>
    obtain ⟨a, b⟩ := e
    obtain ⟨ha, hrest⟩ := List.nodup_cons.1 hn
    cases es' with
    | nil => cases hkeys
    | cons e' es' =>
      obtain ⟨a', b'⟩ := e'
      obtain ⟨rfl, htail⟩ := List.cons.inj hkeys
      have hvalue := hfind a
      rw [find?, find?, if_pos rfl, if_pos rfl] at hvalue
      have hes : es = es' := by
        refine ih htail hrest fun k => ?_
        by_cases hk : a = k
        · subst hk
          have hkeys' : keys es = keys es' := htail
          have ha' : a ∉ keys es' := hkeys' ▸ ha
          rw [find?_eq_none_iff.2 ha, find?_eq_none_iff.2 ha']
        · have hfind' := hfind k
          rwa [find?, find?, if_neg hk, if_neg hk] at hfind'
      rw [hes, Option.some.inj hvalue]

end Override

section Mapped

variable {β : Type}

omit [DecidableEq κ] in
theorem keys_map_snd (f : α → β) (es : List (κ × α)) :
    keys (es.map fun e => (e.1, f e.2)) = keys es := by
  unfold keys
  rw [List.map_map]
  rfl

theorem find?_map_snd (f : α → β) (k : κ) (es : List (κ × α)) :
    find? k (es.map fun e => (e.1, f e.2)) = (find? k es).map f := by
  induction es with
  | nil => rfl
  | cons e es ih =>
    obtain ⟨a, b⟩ := e
    rw [List.map_cons, find?, find?, ih]
    split <;> rfl

end Mapped

end DesiredState.Entries
