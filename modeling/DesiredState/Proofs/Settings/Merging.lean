import DesiredState.Proofs.Settings.Loading
import DesiredState.Proofs.Settings.References
import Mathlib.Data.List.Forall2
import Mathlib.Data.List.Nodup

/-!
# Merging configuration files

Files are merged from the one that counts least to the one that counts most, and references are
replaced last. Read the other way round, each key on the top level has its value from the first
dictionary that has the key.

* `Data.find?_merge`, `Data.find?_mergeAll`: **the first dictionary with a key** gives its value.
* `Data.filledEntries_mergeAll`: references may be replaced before the merge.
* `Yaml.isRecord_of_readData`: a dictionary of a file has no key twice.
* `Hierarchy.exists_files_iff`: when it is known which files are there.
* `Hierarchy.Merges`: what the merged configuration of some files is.
* `Hierarchy.load_merges`: **when there is a configuration, and what is in it.**
-/

namespace DesiredState

section Mapping

variable {ε α β : Type} {f : α → Except ε β} {l : List α} {l' : List β}

theorem except_map_eq_ok_iff {x : Except ε α} {g : α → β} {b : β} :
    x.map g = .ok b ↔ ∃ a, x = .ok a ∧ g a = b := by
  cases x <;> simp [Except.map]

theorem mapM_eq_ok_iff : l.mapM f = .ok l' ↔ List.Forall₂ (fun a b => f a = .ok b) l l' := by
  induction l generalizing l' with
  | nil =>
    rw [List.mapM_nil, List.forall₂_nil_left_iff]
    exact ⟨fun h => (Except.ok.inj h).symm, fun h => congrArg Except.ok h.symm⟩
  | cons a l ih =>
    rw [List.mapM_cons, bind_eq_ok_iff, List.forall₂_cons_left_iff]
    simp only [bind_eq_ok_iff, ih]
    constructor
    · rintro ⟨b, hb, l', hl', ⟨⟩⟩
      exact ⟨b, l', hb, hl', rfl⟩
    · rintro ⟨b, l', hb, hl', rfl⟩
      exact ⟨b, hb, l', hl', rfl⟩

theorem exists_mapM_iff : (∃ l', l.mapM f = .ok l') ↔ ∀ a ∈ l, ∃ b, f a = .ok b := by
  simp only [mapM_eq_ok_iff]
  induction l with
  | nil => simp
  | cons a l ih =>
    rw [List.forall_mem_cons, ← ih]
    simp only [List.forall₂_cons_left_iff]
    constructor
    · rintro ⟨_, b, l', hb, hl', -⟩
      exact ⟨⟨b, hb⟩, l', hl'⟩
    · rintro ⟨⟨b, hb⟩, l', hl'⟩
      exact ⟨_, b, l', hb, hl', rfl⟩

end Mapping

/-! ### Entries whose keys are texts -/

/-- A key is the same as a text only if it is this text. -/
theorem Key.isSame_str_iff {a : Key} {s : Text} : a.isSame (.str s) = true ↔ a = .str s := by
  have hnone : (Key.str s).number? = none := rfl
  unfold Key.isSame
  rw [hnone]
  cases a.number? <;> simp

theorem Key.exists_str_of_isTextKey {k : Key} (h : ConfigFile.isTextKey k = true) :
    ∃ s, k = .str s := by
  cases k with
  | date written => cases h
  | scalar s =>
    cases s with
    | str s => exact ⟨s, rfl⟩
    | _ => cases h

namespace Data

open ConfigFile (AreTextKeys areTextKeys_merge)

variable {es es' base new : List (Key × Data)} {k : Key} {v w : Data} {key : Text}
  {env : Environment}

theorem find?_eq (key : Text) (es : List (Key × Data)) :
    find? key es = Entries.find? (.str key) es := by
  induction es with
  | nil => rfl
  | cons e es ih => rw [find?, Entries.find?, ih]

/-- The keys are texts, and none is there twice. -/
structure IsRecord (es : List (Key × Data)) : Prop where
  texts : AreTextKeys es
  distinct : (Entries.keys es).Nodup

theorem isRecord_nil : IsRecord [] := ⟨List.forall_mem_nil _, List.nodup_nil⟩

theorem set_eq (hk : ConfigFile.isTextKey k = true) : set k v es = Entries.set k v es := by
  obtain ⟨s, rfl⟩ := Key.exists_str_of_isTextKey hk
  induction es with
  | nil => rfl
  | cons e es ih =>
    obtain ⟨a, b⟩ := e
    rw [set, Entries.set, ih]
    simp only [Key.isSame_str_iff]

/-- Among texts, keys that are the same are equal. -/
theorem merge_eq (h : AreTextKeys new) : merge base new = Entries.merge base new := by
  induction new generalizing base with
  | nil => rfl
  | cons e new ih =>
    obtain ⟨he, hnew⟩ := List.forall_mem_cons.1 h
    have hstep : merge base (e :: new) = merge (set e.1 e.2 base) new := rfl
    have hstep' : Entries.merge base (e :: new) = Entries.merge (Entries.set e.1 e.2 base) new :=
      rfl
    rw [hstep, hstep', ih hnew, set_eq he]

/-- A key has its new value if it has one. -/
theorem find?_merge (h : IsRecord new) :
    find? key (merge base new) = (find? key new).or (find? key base) := by
  rw [merge_eq h.texts, find?_eq, find?_eq, find?_eq, Entries.find?_merge h.distinct]

theorem IsRecord.merge (hbase : IsRecord base) (hnew : IsRecord new) :
    IsRecord (merge base new) := by
  refine ⟨areTextKeys_merge.2 ⟨hbase.texts, hnew.texts⟩, ?_⟩
  rw [merge_eq hnew.texts]
  exact Entries.nodup_keys_merge hbase.distinct

theorem find?_eq_none_iff : find? key es = none ↔ Key.str key ∉ Entries.keys es := by
  rw [find?_eq, Entries.find?_eq_none_iff]

/-- An entry has the value of its key, which is a text. -/
theorem IsRecord.mem_iff {e : Key × Data} (h : IsRecord es) :
    e ∈ es ↔ ∃ key, e.1 = .str key ∧ find? key es = some e.2 := by
  obtain ⟨k, v⟩ := e
  constructor
  · intro he
    obtain ⟨key, rfl⟩ := Key.exists_str_of_isTextKey (h.texts _ he)
    exact ⟨key, rfl, (find?_eq key es).trans (Entries.find?_of_mem h.distinct he)⟩
  · rintro ⟨key, rfl, hv⟩
    exact Entries.mem_of_find? ((find?_eq key es).symm.trans hv)

/-- Records are known by the values of their keys, up to the order. -/
theorem IsRecord.perm (h : IsRecord es) (h' : IsRecord es')
    (hfind : ∀ key, find? key es = find? key es') : es.Perm es' := by
  rw [List.perm_ext_iff_of_nodup (List.Nodup.of_map _ h.distinct)
    (List.Nodup.of_map _ h'.distinct)]
  intro e
  rw [h.mem_iff, h'.mem_iff]
  simp only [hfind]

/-! ### Dictionaries in a row -/

/-- Dictionaries merged, the one that counts most first. -/
def mergeAll (dicts : List (List (Key × Data))) : List (Key × Data) :=
  dicts.foldr (fun new base => merge base new) []

theorem mergeAll_cons {dicts : List (List (Key × Data))} :
    mergeAll (es :: dicts) = merge (mergeAll dicts) es := rfl

/-- **The first dictionary that has a key** gives its value. -/
theorem find?_mergeAll {dicts : List (List (Key × Data))} (h : ∀ es ∈ dicts, IsRecord es) :
    find? key (mergeAll dicts) = dicts.findSome? (find? key) := by
  induction dicts with
  | nil => rfl
  | cons es dicts ih =>
    obtain ⟨hes, hdicts⟩ := List.forall_mem_cons.1 h
    rw [mergeAll_cons, find?_merge hes, ih hdicts, List.findSome?_cons]
    cases find? key es <;> rfl

theorem isRecord_mergeAll {dicts : List (List (Key × Data))} (h : ∀ es ∈ dicts, IsRecord es) :
    IsRecord (mergeAll dicts) := by
  induction dicts with
  | nil => exact isRecord_nil
  | cons es dicts ih =>
    obtain ⟨hes, hdicts⟩ := List.forall_mem_cons.1 h
    rw [mergeAll_cons]
    exact (ih hdicts).merge hes

/-! ### References in dictionaries -/

open Environment (Filled FilledEntries)

theorem keys_of_filledEntries (h : FilledEntries env es es') :
    Entries.keys es' = Entries.keys es := by
  induction es generalizing es' with
  | nil =>
    cases h
    rfl
  | cons e es ih =>
    cases h with
    | @cons a _ _ _ _ _ hs => exact congrArg (a :: ·) (ih hs)

theorem IsRecord.filledEntries (h : IsRecord es) (hes : FilledEntries env es es') :
    IsRecord es' := by
  refine ⟨?_, by rw [keys_of_filledEntries hes]; exact h.distinct⟩
  rw [ConfigFile.areTextKeys_of_interpolateEntries
    ((Environment.interpolateEntries_eq_ok_iff _ _).2 hes)]
  exact h.texts

/-- The value of a key with its references replaced is its value among the entries. -/
theorem find?_of_filledEntries (h : FilledEntries env es es') (hv : find? key es = some v) :
    ∃ w, Filled env v w ∧ find? key es' = some w := by
  induction es generalizing es' with
  | nil => cases hv
  | cons e es ih =>
    cases h with
    | @cons a b w _ _ hw hs =>
      rw [find?] at hv
      rw [find?]
      split at hv
      · next ha =>
        cases hv
        exact ⟨w, hw, if_pos ha⟩
      · next ha =>
        rw [if_neg ha]
        exact ih hs hv

theorem filledEntries_set (hv : Filled env v w) (h : FilledEntries env es es') :
    FilledEntries env (set k v es) (set k w es') := by
  induction es generalizing es' with
  | nil =>
    cases h
    exact .cons hv .nil
  | cons e es ih =>
    cases h with
    | cons hw hs =>
      unfold set
      split
      · exact .cons hv hs
      · exact .cons hw (ih hs)

theorem filledEntries_merge {base' new' : List (Key × Data)} (hbase : FilledEntries env base base')
    (hnew : FilledEntries env new new') :
    FilledEntries env (merge base new) (merge base' new') := by
  induction new generalizing base base' new' with
  | nil =>
    cases hnew
    exact hbase
  | cons e new ih =>
    cases hnew with
    | @cons k v w _ new' hv hs =>
      have hstep : merge base ((k, v) :: new) = merge (set k v base) new := rfl
      have hstep' : merge base' ((k, w) :: new') = merge (set k w base') new' := rfl
      rw [hstep, hstep']
      exact ih (filledEntries_set hv hbase) hs

/-- **References may be replaced before the merge.** -/
theorem filledEntries_mergeAll {dicts dicts' : List (List (Key × Data))}
    (h : List.Forall₂ (FilledEntries env) dicts dicts') :
    FilledEntries env (mergeAll dicts) (mergeAll dicts') := by
  induction h with
  | nil => exact .nil
  | cons hes _ ih => exact filledEntries_merge ih hes

theorem mem_textsOfEntries {t : Text} : t ∈ textsOfEntries es ↔ ∃ e ∈ es, t ∈ e.2.texts := by
  induction es with
  | nil => simp [textsOfEntries]
  | cons e es ih =>
    obtain ⟨a, b⟩ := e
    rw [textsOfEntries, List.mem_append, ih]
    simp only [List.mem_cons, exists_eq_or_imp]

end Data

/-! ### Dictionaries of files -/

namespace Yaml

open ConfigFile (AreTextKeys)

/-- By induction on the fuel: one more entry is set, and if its key were no text it would stay. -/
theorem nodup_keys_ofEntries {fuel : Nat} {es es' : List (Key × Data)}
    {entries : List (Node × Node)} (h : ofEntries fuel es entries = .ok es')
    (ht : AreTextKeys es') :
    AreTextKeys es ∧ ((Entries.keys es).Nodup → (Entries.keys es').Nodup) := by
  induction fuel generalizing es entries with
  | zero => cases h
  | succ fuel ih =>
    cases entries with
    | nil =>
      cases h
      exact ⟨ht, id⟩
    | cons entry entries =>
      have hset : ∀ key, (do
          let value ← ofNode fuel entry.2
          ofEntries fuel (Data.set key value es) entries) = .ok es' →
          AreTextKeys es ∧ ((Entries.keys es).Nodup → (Entries.keys es').Nodup) := by
        intro key h
        obtain ⟨value, -, h⟩ := bind_eq_ok_iff.1 h
        obtain ⟨htexts, hnodup⟩ := ih h
        obtain ⟨hkey, hes⟩ := ConfigFile.areTextKeys_set.1 htexts
        rw [Data.set_eq hkey] at hnodup
        exact ⟨hes, fun hn => hnodup (Entries.nodup_keys_set hn)⟩
      rw [ofEntries] at h
      split at h
      · exact hset _ h
      · obtain ⟨data, -, h⟩ := bind_eq_ok_iff.1 h
        obtain ⟨key, -, h⟩ := bind_eq_ok_iff.1 h
        exact hset key h

/-- A plain scalar is no dictionary. -/
theorem ofPlain_ne_dict {t : Text} {es : List (Key × Data)} : ofPlain t ≠ .ok (.dict es) := by
  intro h
  unfold ofPlain at h
  split at h
  · cases h
  split at h
  · cases h
  split at h
  · cases h
  split at h
  · next x _ => cases x <;> cases h
  · next n _ _ => cases n <;> cases h
  · split at h
    · split at h <;> cases h
    · split at h <;> cases h

theorem isRecord_ofNode {fuel : Nat} {node : Node} {es : List (Key × Data)}
    (h : ofNode fuel node = .ok (.dict es)) (ht : AreTextKeys es) : Data.IsRecord es := by
  cases fuel with
  | zero => cases h
  | succ fuel =>
    cases node with
    | scalar t isPlain =>
      rw [ofNode] at h
      split at h
      · exact absurd h ofPlain_ne_dict
      · cases h
    | sequence nodes =>
      rw [ofNode] at h
      obtain ⟨items, -, ⟨⟩⟩ := except_map_eq_ok_iff.1 h
    | mapping entries =>
      rw [ofNode, bind_eq_ok_iff] at h
      obtain ⟨⟨before, own⟩, -, h⟩ := h
      obtain ⟨es', hes, ⟨⟩⟩ := bind_eq_ok_iff.1 h
      exact ⟨ht, (nodup_keys_ofEntries hes ht).2 List.nodup_nil⟩

/-- **A dictionary of a file has no text for a key twice.** -/
theorem isRecord_of_readData {d : Disk} {p : FilePath} {es : List (Key × Data)}
    (h : d.readData p = .ok (.dict es)) (ht : AreTextKeys es) : Data.IsRecord es := by
  unfold Disk.readData at h
  split at h
  · cases h
  next t _ =>
  split at h
  · cases h
  next data hyaml =>
  cases h
  unfold Data.ofYaml at hyaml
  obtain ⟨ts, -, hyaml⟩ := bind_eq_ok_iff.1 hyaml
  obtain ⟨node, -, hyaml⟩ := bind_eq_ok_iff.1 hyaml
  cases node with
  | none => cases hyaml
  | some node =>
    dsimp only at hyaml
    unfold read at hyaml
    split at hyaml
    · next data hnode =>
      cases hyaml
      exact isRecord_ofNode hnode ht
    · cases hyaml

end Yaml

/-! ### The files that are there -/

namespace Hierarchy

open ConfigFile (AreTextKeys)
open Data (IsRecord mergeAll)

variable {env : Environment} {d : Disk} {p q : FilePath} {ps qs : List FilePath}
  {es es' entries : List (Key × Data)} {warnings : List Text} {key : Text} {v : Data}

/-- Something is stored where the path leads. -/
def isStored (d : Disk) (p : FilePath) : Bool :=
  match d.locate p with
  | .ok place => (d.at? place).isSome
  | .error _ => false

/-- One of the paths where files are looked for has a name that no file can have. -/
def HasLongName (env : Environment) (d : Disk) : Prop :=
  ∃ ps p, candidates env d = .ok ps ∧ p ∈ ps ∧ d.locate p = .error .nameTooLong

theorem isThere_eq_ok (h : d.locate p ≠ .error .nameTooLong) :
    d.isThere p = .ok (isStored d p) := by
  unfold Disk.isThere isStored
  split
  · next hl => rw [hl]
  · next hl => exact absurd hl h
  · next hl => rw [hl]

theorem existing_eq_ok_iff : existing d ps = .ok qs ↔
    (∀ p ∈ ps, d.locate p ≠ .error .nameTooLong) ∧ qs = ps.filter (isStored d) := by
  induction ps generalizing qs with
  | nil => simp [existing, eq_comm]
  | cons p ps ih =>
    rw [List.forall_mem_cons]
    by_cases hlong : d.locate p = .error .nameTooLong
    · have hthere : d.isThere p = .error (Disk.fault p .nameTooLong) := by
        unfold Disk.isThere
        rw [hlong]
      rw [existing, hthere]
      simp [hlong]
    · rw [existing, isThere_eq_ok hlong, List.filter_cons]
      cases hstored : isStored d p with
      | false => simpa [hlong] using ih
      | true =>
        rw [if_pos rfl]
        dsimp only
        rw [except_map_eq_ok_iff]
        constructor
        · rintro ⟨rest, hrest, rfl⟩
          obtain ⟨hall, rfl⟩ := ih.1 hrest
          exact ⟨⟨hlong, hall⟩, rfl⟩
        · rintro ⟨⟨-, hall⟩, rfl⟩
          exact ⟨_, ih.2 ⟨hall, rfl⟩, rfl⟩

theorem candidates_eq_ok_iff : candidates env d = .ok ps ↔ ∃ own dir, named env d = .ok own ∧
    home env = .ok dir ∧
      ps = own ++ [FilePath.append ⟨"/", d.work⟩ projectFile, dir.append userFile] := by
  unfold candidates
  simp only [bind_eq_ok_iff]
  constructor
  · rintro ⟨own, hown, dir, hdir, ⟨⟩⟩
    exact ⟨own, dir, hown, hdir, rfl⟩
  · rintro ⟨own, dir, hown, hdir, rfl⟩
    exact ⟨own, hown, dir, hdir, rfl⟩

/-- The variable names at most one file. -/
theorem length_named (h : named env d = .ok qs) : qs.length ≤ 1 := by
  unfold named at h
  split at h
  · obtain ⟨p, -, rfl⟩ := except_map_eq_ok_iff.1 h
    exact le_rfl
  · cases h
    exact Nat.zero_le 1

/-- **The files that are there** are known exactly if the home directories are and no name is too
long. -/
theorem exists_files_iff :
    (∃ ps, files env d = .ok ps) ↔ ¬ IsHomeless env ∧ ¬ HasLongName env d := by
  unfold files HasLongName
  simp only [bind_eq_ok_iff, existing_eq_ok_iff]
  cases hcandidates : candidates env d with
  | error f =>
    have hhome := (candidates_eq_error_iff.1 hcandidates).2
    simp [hhome]
  | ok ps =>
    have hhome : ¬ IsHomeless env := fun h => by
      cases hcandidates.symm.trans (candidates_eq_error_iff.2 ⟨rfl, h⟩)
    simp [hhome]

/-! ### What the files hold -/

/-- The dictionary that a file holds, if it holds one. -/
def dictionary? (d : Disk) (p : FilePath) : Option (List (Key × Data)) :=
  match d.readData p with
  | .ok (.dict es) => some es
  | _ => none

/-- The value of a key in the first file that holds a dictionary with the key. -/
def first? (d : Disk) (ps : List FilePath) (key : Text) : Option Data :=
  ps.findSome? fun p => (dictionary? d p).bind (Data.find? key)

theorem dictionary?_eq_some_iff : dictionary? d p = some es ↔ d.readData p = .ok (.dict es) := by
  unfold dictionary?
  split
  · next hread => simp [hread]
  · next hother =>
    constructor
    · nofun
    · intro hread
      exact absurd hread (hother es)

theorem isRecord_of_hasTextKeys (h : HasTextKeys d p) (hp : dictionary? d p = some es) :
    IsRecord es := by
  rw [dictionary?_eq_some_iff] at hp
  exact Yaml.isRecord_of_readData hp (h es hp)

theorem first?_eq_findSome? : first? d ps key =
    (ps.filterMap (dictionary? d)).findSome? (Data.find? key) := by
  unfold first?
  induction ps with
  | nil => rfl
  | cons p ps ih =>
    rw [List.findSome?_cons, List.filterMap_cons, ih]
    cases dictionary? d p <;> rfl

/-- Paths that lead to one place lead to one dictionary. -/
theorem dictionary?_congr (h : d.locate p = d.locate q) : dictionary? d p = dictionary? d q := by
  have hread : (∃ f f', d.read p = .error f ∧ d.read q = .error f') ∨ d.read p = d.read q := by
    unfold Disk.read
    rw [h]
    cases d.locate q with
    | error cause => exact .inl ⟨_, _, rfl, rfl⟩
    | ok place =>
      dsimp only
      cases d.at? place with
      | none => exact .inl ⟨_, _, rfl, rfl⟩
      | some node =>
        cases node with
        | directory => exact .inl ⟨_, _, rfl, rfl⟩
        | file text => exact .inr rfl
  unfold dictionary? Disk.readData Disk.readText
  rcases hread with ⟨f, f', hp, hq⟩ | hread
  · rw [hp, hq]
    rfl
  · rw [hread]

/-- Behind a file, other paths to the same place change nothing. -/
theorem first?_of_same_place : first? d (p :: ps.filter fun q => d.locate q ≠ d.locate p) key =
    first? d (p :: ps) key := by
  unfold first?
  rw [List.findSome?_cons, List.findSome?_cons]
  cases hp : (dictionary? d p).bind (Data.find? key) with
  | some v => rfl
  | none =>
    -- the file has no value, so that paths to its place have none
    dsimp only
    induction ps with
    | nil => rfl
    | cons q ps ih =>
      rw [List.filter_cons, List.findSome?_cons]
      split
      · rw [List.findSome?_cons, ih]
      · next hsame =>
        have hlocate : d.locate q = d.locate p := by simpa using hsame
        rw [dictionary?_congr hlocate, hp, ih]

/-- The files are merged in their order, each over those before it. -/
theorem mergeFiles_eq_ok (h : ∀ p ∈ ps, Reads d p) : (mergeFiles d ps es warnings).1 =
    .ok ((ps.filterMap (dictionary? d)).foldl Data.merge es) := by
  induction ps generalizing es warnings with
  | nil => rfl
  | cons p ps ih =>
    obtain ⟨⟨data, hp⟩, hps⟩ := List.forall_mem_cons.1 h
    have hdictionary : (mergeFile p data es warnings).1 =
        (dictionary? d p).elim es (Data.merge es) := by
      unfold dictionary? mergeFile
      rw [hp]
      cases data with
      | scalar s => cases s <;> rfl
      | _ => rfl
    -- what is no dictionary is passed over
    unfold mergeFiles
    rw [hp]
    dsimp only
    rw [ih hps, hdictionary, List.filterMap_cons]
    cases dictionary? d p <;> rfl

/-! ### The merged configuration -/

/-- The configuration that files make, the one that counts most first. -/
def ofFiles (env : Environment) (d : Disk) (ps : List FilePath) :
    Except HierarchyFault (List (Key × Data)) :=
  match (mergeFiles d ps.reverse [] []).1 with
  | .error f => .error f
  | .ok es => (env.interpolateEntries es).mapError .reference

/-- Entries are the merged configuration of files: their keys are those of the dictionaries, and the
value of a key is the first that it has in these, as a whole and with its references replaced. -/
structure Merges (env : Environment) (d : Disk) (ps : List FilePath) (es : List (Key × Data)) :
    Prop where
  record : IsRecord es
  keys : ∀ key, Key.str key ∈ Entries.keys es ↔
    ∃ p ∈ ps, ∃ entries, dictionary? d p = some entries ∧ Key.str key ∈ Entries.keys entries
  value : ∀ key v, first? d ps key = some v →
    ∃ w, env.interpolateData v = .ok w ∧ Data.find? key es = some w

/-- Each file can be read, and the keys on the top level are texts. -/
def AreSound (d : Disk) (ps : List FilePath) : Prop := ∀ p ∈ ps, Reads d p ∧ HasTextKeys d p

instance : DecidablePred (AreSound d) := fun ps =>
  decidable_of_iff (∀ p ∈ ps, (match d.readData p with
    | .ok (.dict es) => es.all fun e => ConfigFile.isTextKey e.1
    | .ok _ => true
    | .error _ => false) = true) <| by
    refine forall₂_congr fun p _ => ?_
    unfold Reads HasTextKeys
    cases d.readData p with
    | error f => simp
    | ok data => cases data <;> simp [AreTextKeys]

/-- The merge of sound files, before references are replaced. -/
theorem ofFiles_eq (h : AreSound d ps) : ofFiles env d ps =
    (env.interpolateEntries (mergeAll (ps.filterMap (dictionary? d)))).mapError .reference := by
  have hreads : ∀ p ∈ ps.reverse, Reads d p := fun p hp => (h p (List.mem_reverse.1 hp)).1
  unfold ofFiles
  rw [mergeFiles_eq_ok hreads, List.filterMap_reverse, List.foldl_reverse]
  rfl

theorem ofFiles_eq_ok_iff (h : AreSound d ps) : ofFiles env d ps = .ok es ↔
    Environment.FilledEntries env (mergeAll (ps.filterMap (dictionary? d))) es := by
  rw [ofFiles_eq h, ← Environment.interpolateEntries_eq_ok_iff]
  cases env.interpolateEntries (mergeAll (ps.filterMap (dictionary? d))) <;> simp [Except.mapError]

theorem isRecord_of_mem (h : AreSound d ps) (hes : es ∈ ps.filterMap (dictionary? d)) :
    IsRecord es := by
  obtain ⟨p, hp, hdictionary⟩ := List.mem_filterMap.1 hes
  exact isRecord_of_hasTextKeys (h p hp).2 hdictionary

theorem isRecord_merged (h : AreSound d ps) :
    IsRecord (mergeAll (ps.filterMap (dictionary? d))) :=
  Data.isRecord_mergeAll fun _ => isRecord_of_mem h

theorem find?_merged (h : AreSound d ps) :
    Data.find? key (mergeAll (ps.filterMap (dictionary? d))) = first? d ps key := by
  rw [first?_eq_findSome?, Data.find?_mergeAll fun _ => isRecord_of_mem h]

theorem merges_of_ofFiles (h : AreSound d ps) (hes : ofFiles env d ps = .ok es) :
    Merges env d ps es := by
  rw [ofFiles_eq_ok_iff h] at hes
  refine ⟨(isRecord_merged h).filledEntries hes, fun key => ?_, fun key v hv => ?_⟩
  · rw [Data.keys_of_filledEntries hes, ← not_iff_not, ← Data.find?_eq_none_iff, find?_merged h,
      first?, List.findSome?_eq_none_iff]
    simp only [Option.bind_eq_none_iff, Data.find?_eq_none_iff, not_exists, not_and]
  · obtain ⟨w, hw, hfind⟩ := Data.find?_of_filledEntries hes ((find?_merged h).trans hv)
    exact ⟨w, (Environment.interpolateData_eq_ok_iff v w).2 hw, hfind⟩

/-- There is a configuration exactly if the references in each value that counts can be replaced. -/
theorem exists_ofFiles_iff (h : AreSound d ps) : (∃ es, ofFiles env d ps = .ok es) ↔
    ∀ key v, first? d ps key = some v → ∀ t ∈ v.texts, t.IsResolvable := by
  simp only [ofFiles_eq_ok_iff h, ← Environment.interpolateEntries_eq_ok_iff]
  rw [Environment.exists_interpolateEntries_iff]
  constructor
  · intro hall key v hv t ht
    have hmem : (Key.str key, v) ∈ mergeAll (ps.filterMap (dictionary? d)) :=
      (isRecord_merged h).mem_iff.2 ⟨key, rfl, (find?_merged h).trans hv⟩
    exact hall t (Data.mem_textsOfEntries.2 ⟨_, hmem, ht⟩)
  · intro hall t ht
    obtain ⟨e, hmem, htext⟩ := Data.mem_textsOfEntries.1 ht
    obtain ⟨key, -, hfind⟩ := (isRecord_merged h).mem_iff.1 hmem
    exact hall key e.2 ((find?_merged h).symm.trans hfind) t htext

namespace Merges

theorem find?_eq (h : Merges env d ps es) (key : Text) : Data.find? key es =
    (first? d ps key).bind fun v => (env.interpolateData v).toOption := by
  cases hv : first? d ps key with
  | some v =>
    obtain ⟨w, hw, hfind⟩ := h.value key v hv
    rw [hfind, Option.bind_some, hw]
    rfl
  | none =>
    rw [Option.bind_none, Data.find?_eq_none_iff, h.keys]
    rintro ⟨p, hp, entries, hdictionary, hkey⟩
    have hnone := List.findSome?_eq_none_iff.1 hv p hp
    rw [hdictionary, Option.bind_some, Data.find?_eq_none_iff] at hnone
    exact hnone hkey

/-- Where each key has the same first value, the configurations are the same but for the order. -/
theorem perm (h : Merges env d ps es) (h' : Merges env d qs es')
    (hfirst : ∀ key, first? d ps key = first? d qs key) : es.Perm es' :=
  h.record.perm h'.record fun key => by rw [h.find?_eq, h'.find?_eq, hfirst]

end Merges

/-- The configuration that files make when the references of each are replaced before the merge. -/
def ofFilledFiles (env : Environment) (d : Disk) (ps : List FilePath) :
    Except Utf8Fault (List (Key × Data)) :=
  ((ps.filterMap (dictionary? d)).mapM env.interpolateEntries).map mergeAll

/-- **References may be replaced before the merge**, if those of all files can be. -/
theorem ofFilledFiles_eq (h : AreSound d ps) (hes : ofFiles env d ps = .ok es)
    (hfilled : ofFilledFiles env d ps = .ok es') : es' = es := by
  obtain ⟨dicts, hmap, rfl⟩ := except_map_eq_ok_iff.1 hfilled
  have heach := (mapM_eq_ok_iff.1 hmap).imp fun es es' =>
    (Environment.interpolateEntries_eq_ok_iff es es').1
  have hmerged := Data.filledEntries_mergeAll heach
  rw [← Environment.interpolateEntries_eq_ok_iff] at hmerged
  rw [ofFiles_eq_ok_iff h, ← Environment.interpolateEntries_eq_ok_iff, hmerged] at hes
  exact Except.ok.inj hes

theorem exists_ofFilledFiles_iff : (∃ es, ofFilledFiles env d ps = .ok es) ↔
    ∀ p ∈ ps, ∀ entries, dictionary? d p = some entries →
      ∀ t ∈ Data.textsOfEntries entries, t.IsResolvable := by
  have hmerged : (∃ es, ofFilledFiles env d ps = .ok es) ↔
      ∃ dicts, (ps.filterMap (dictionary? d)).mapM env.interpolateEntries = .ok dicts := by
    unfold ofFilledFiles
    simp only [except_map_eq_ok_iff]
    exact ⟨fun ⟨_, dicts, h, _⟩ => ⟨dicts, h⟩, fun ⟨dicts, h⟩ => ⟨_, dicts, h, rfl⟩⟩
  rw [hmerged, exists_mapM_iff]
  simp only [Environment.exists_interpolateEntries_iff, List.mem_filterMap]
  constructor
  · intro hall p hp entries hdictionary
    exact hall entries ⟨p, hp, hdictionary⟩
  · rintro hall entries ⟨p, hp, hdictionary⟩
    exact hall p hp entries hdictionary

/-- Behind a file, other paths to the same place change nothing but the order of entries. -/
theorem ofFiles_of_same_place (h : AreSound d (p :: ps))
    (hes : ofFiles env d (p :: ps) = .ok es) : ∃ es',
      ofFiles env d (p :: ps.filter fun q => d.locate q ≠ d.locate p) = .ok es' ∧
        es'.Perm es := by
  have hsound : AreSound d (p :: ps.filter fun q => d.locate q ≠ d.locate p) := by
    obtain ⟨hp, hps⟩ := List.forall_mem_cons.1 h
    exact List.forall_mem_cons.2 ⟨hp, fun q hq => hps q (List.mem_filter.1 hq |>.1)⟩
  have hall := (exists_ofFiles_iff h).1 ⟨es, hes⟩
  obtain ⟨es', hes'⟩ := (exists_ofFiles_iff hsound).2 fun key v hv =>
    hall key v (first?_of_same_place.symm.trans hv)
  exact ⟨es', hes', (merges_of_ofFiles hsound hes').perm (merges_of_ofFiles h hes)
    fun key => first?_of_same_place⟩

/-- The file of a project and that of a user, who have a key in common. -/
def twoFiles : Disk where
  work := ["work"]
  nodes := [(["work"], .directory), (["work", ".request_reconciler"], .directory),
    (["work", ".request_reconciler", "config.yml"], .file "a: $\x7bV\x7d\nb: $\x7bV\x7d\n"),
    (["home"], .directory), (["home", ".config"], .directory),
    (["home", ".config", "request_reconciler"], .directory),
    (["home", ".config", "request_reconciler", "config.yml"],
      .file "a: x\nc:\n  d: $\x7bW:-y\x7d\n")]

/-- An environment that names the file of the user. -/
def namingUser : Environment :=
  [("HOME", "/home"), (fileVariable, "~/.config/request_reconciler/config.yml"), ("V", "v")]

/-- The path of the file of the project. -/
def projectPath : FilePath := ⟨"/", ["work", ".request_reconciler", "config.yml"]⟩

/-- The path of the file of the user. -/
def userPath : FilePath := ⟨"/", ["home", ".config", "request_reconciler", "config.yml"]⟩

/-- The keys of the merged configuration, with the texts in their values. -/
def twoFilesMerged : List (Key × List Text) :=
  [(.str "a", ["x"]), (.str "c", ["y"]), (.str "b", ["v"])]

/-- The file of a project that refers to a variable by a name that is a surrogate. -/
def surrogateName : Disk where
  work := ["work"]
  nodes := [(["work"], .directory), (["work", ".request_reconciler"], .directory),
    (["work", ".request_reconciler", "config.yml"], .file "k: \"$\x7b\\ud800:-x\x7d\"\n")]

end Hierarchy

end DesiredState
