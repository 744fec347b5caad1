import DesiredState.Proofs.Storage.FileStore
import Mathlib.Data.List.Perm.Subperm

/-!
# Saves are all or nothing

A save goes through a temporary file whose place is free before and free again after it, however the
save ends. So a save that fails leaves every file as it was, and one that succeeds changes one file,
the one of the resource's name, right inside the directory of the store. Only directories may be new
besides.

* `FileStore.isFree_temporary`: **the place of the temporary file is free**: of more names than
  there are nodes, one is not taken.
* `FileStore.grows_of_save_error`: a save that fails.
* `FileStore.save_atomic`: **what a save changes**, whether it succeeds or not.
-/

namespace DesiredState.FileStore

variable {store : FileStore} {device : Device} {r : Resource} {d d' : Disk} {place : Place}
  {p : FilePath}

/-! ### The temporary file -/

theorem digitsVal_padded (width n : Nat) : Text.digitsVal (Text.padded width n) = n := by
  have hzeros (k : Nat) :
      (List.replicate k (CodePoint.ofChar '0')).foldl (fun n c => n * 10 + c.digitVal) 0 = 0 := by
    induction k with
    | zero => rfl
    | succ k ih => rw [List.replicate_succ, List.foldl_cons]; exact ih
  have hdecimal := Json.digitsVal_decimal n
  unfold Text.digitsVal at hdecimal
  unfold Text.padded Text.digitsVal
  dsimp only
  rw [List.foldl_append, hzeros, hdecimal]

theorem temporaryName_injective : Function.Injective temporaryName := by
  intro m n h
  unfold temporaryName at h
  rw [List.append_left_inj, List.append_right_inj] at h
  rw [← digitsVal_padded 8 m, h, digitsVal_padded]

theorem isFree_eq_false (h : isFree d p = false) :
    ∃ place, d.locate p = .ok place ∧ (d.at? place).isSome := by
  unfold isFree at h
  split at h
  · next place hl => exact ⟨place, hl, by simpa using h⟩
  · cases h

/-- **The place of the temporary file is free.** Each name that is taken is the last one of a stored
place, and there are fewer places than names. -/
theorem isFree_temporary (store : FileStore) (d : Disk) :
    isFree d (store.temporary d) = true := by
  unfold temporary
  dsimp only
  cases hfind : ((List.range (d.nodes.length + 1)).map temporaryName).find?
      fun name => isFree d ((d.absolute store.dir).child name) with
  | some name =>
    have hfree := List.find?_some hfind
    exact hfree
  | none =>
    have htaken : (List.range (d.nodes.length + 1)).map temporaryName ⊆
        d.nodes.map fun node => node.1.getLastD [] := by
      intro name hname
      obtain ⟨k, -, rfl⟩ := List.mem_map.1 hname
      have hused : isFree d ((d.absolute store.dir).child (temporaryName k)) = false := by
        simpa using List.find?_eq_none.1 hfind _ hname
      obtain ⟨place, hl, hat⟩ := isFree_eq_false hused
      obtain ⟨base, rfl, -⟩ := Disk.locate_child_ok hl (temporaryName_ne_up k)
      rw [Disk.at?_of_ne_nil (List.append_ne_nil_of_right_ne_nil _ (List.cons_ne_nil _ _))] at hat
      obtain ⟨node, hnode⟩ := Option.isSome_iff_exists.1 hat
      exact List.mem_map.2 ⟨_, Entries.mem_of_find? hnode, by simp⟩
    have hnodup : ((List.range (d.nodes.length + 1)).map temporaryName).Nodup :=
      List.nodup_range.map temporaryName_injective
    have hle := (List.subperm_of_subset hnodup htaken).length_le
    simp only [List.length_map, List.length_range] at hle
    omega

/-- A temporary file is made where nothing was. -/
theorem free_of_open {opened : Disk} (h : d.write (store.temporary d) [] = .ok opened) :
    ∃ place, d.locate (store.temporary d) = .ok place ∧ d.at? place = none := by
  obtain ⟨place, hl, -, -⟩ := Disk.write_ok h
  have hfree := isFree_temporary store d
  unfold isFree at hfree
  rw [hl] at hfree
  exact ⟨place, hl, by simpa using hfree⟩

/-! ### A save that fails -/

/-- Whether the text is completed or breaks off, only the temporary file changes. -/
theorem differsAt_fill (device : Device) (r : Resource) (hl : d.locate p = .ok place) :
    Disk.DiffersAt place d (fill device r p d).2 := by
  unfold fill
  dsimp only
  split
  · -- the device refuses the rest
    split
    · next hwrite => exact Disk.differsAt_write hl hwrite
    · exact .refl place d
  split
  · -- the document has no text
    split
    · next hwrite => exact Disk.differsAt_write hl hwrite
    · exact .refl place d
  · split
    · exact .refl place d
    · next hwrite => exact Disk.differsAt_write hl hwrite

theorem grows_prepare (device : Device) (store : FileStore) (d : Disk) :
    d.Grows (prepare device store d).2 := by
  have hgrows := Disk.grows_makeDirectories d store.dir
  unfold prepare
  split
  · exact .refl d
  · split
    · next hmade => rwa [hmade] at hgrows
    · next hmade => rwa [hmade] at hgrows

/-- A save that fails leaves nothing but directories. -/
theorem grows_of_save_error {e : SaveFault} (h : store.save device r d = (.error e, d')) :
    d.Grows d' := by
  have hprepare := grows_prepare device store d
  unfold save at h
  split at h
  · next hmade =>
    cases h
    rwa [hmade] at hprepare
  next made hmade =>
  rw [hmade] at hprepare
  dsimp only at h hprepare
  split at h
  · cases h
    exact hprepare
  next opened hopen =>
  obtain ⟨place, hl, hfree⟩ := free_of_open (allowed_ok hopen)
  have hopened := Disk.differsAt_write hl (allowed_ok hopen)
  have hdirectory : made.at? place ≠ some .directory := by
    rw [hfree]
    nofun
  have hfilled := hopened.trans (differsAt_fill device r
    (Disk.locate_of_extends (hopened.extends hdirectory) hl))
  -- whatever the temporary file held, it is removed
  have hremoved : ∀ filled, Disk.DiffersAt place made filled →
      d.Grows (filled.remove (store.temporary made)) := by
    intro filled hfilled
    obtain ⟨hwork, hat⟩ := Disk.remove_of_differsAt hl hfree hfilled
    exact hprepare.trans (.of_at? hwork hat)
  split at h
  · next hfill =>
    cases h
    rw [hfill] at hfilled
    exact hremoved _ hfilled
  next filled hfill =>
  rw [hfill] at hfilled
  split at h
  · cases h
    exact hremoved _ hfilled
  · cases h

/-! ### A save that succeeds -/

theorem isSafe_of_mem_safeName {n : Text} {c : CodePoint} (h : c ∈ safeName n) :
    isSafe c = true := by
  obtain ⟨a, -, rfl⟩ := List.mem_map.1 h
  split
  · next ha => exact ha
  · rfl

/-- A file name is one name, not a path. -/
theorem separator_not_mem_fileName (n : Text) : FilePath.separator ∉ fileName n := by
  intro h
  unfold fileName at h
  rw [List.mem_append, List.mem_append] at h
  rcases h with (h | h) | h
  · revert h
    decide
  · have hsafe := isSafe_of_mem_safeName h
    revert hsafe
    decide
  · revert h
    decide

/-- A save that succeeds stores the document in the directory of the store and changes nothing
else but that directories may be new. -/
theorem at?_of_save_ok (h : store.save device r d = (.ok (), d')) :
    ∃ made dir, d.Grows made ∧ made.locate store.dir = .ok dir ∧
      made.at? dir = some .directory ∧ d'.work = d.work ∧
      ∀ place, d'.at? place = if place = dir ++ [fileName r.name] then some (.file (document r))
        else made.at? place := by
  obtain ⟨made, opened, filled, hmade, hopen, -, hfill, hmove⟩ := save_steps h
  obtain ⟨hgrows, hthere⟩ := Disk.makeDirectories_grows hmade
  obtain ⟨dir, hdir, hdirectory⟩ := Disk.isDirectory_iff.1 hthere
  obtain ⟨source, target, hs, ht, hextends, hdocument, hstays⟩ :=
    Disk.replace_ok hopen hfill hmove
  have htarget : target = dir ++ [fileName r.name] := by
    obtain ⟨-, -, hshort⟩ := Disk.locate_child_ok ht (fileName_ne_up r.name)
    have hchild := Disk.locate_child hdir hdirectory (fileName_ne_up r.name) hshort
    exact Except.ok.inj (ht.symm.trans hchild)
  obtain ⟨place, hl, hfree⟩ := free_of_open hopen
  cases hs.symm.trans hl
  refine ⟨made, dir, hgrows, hdir, hdirectory, hextends.work.trans hgrows.work, fun q => ?_⟩
  rw [← htarget]
  split
  · next heq => rw [heq, hdocument]
  next hne =>
  by_cases hsource : q = source
  · -- the temporary file has left its place free
    have hopened := Disk.differsAt_write hs hopen
    have hnot : made.at? source ≠ some .directory := by
      rw [hfree]
      nofun
    have hl' := Disk.locate_of_extends (hopened.extends hnot) hs
    have hfilled := (hopened.trans (Disk.differsAt_write hl' hfill)).extends hnot
    have hmoved := Disk.at?_of_move (Disk.locate_of_extends hfilled hs)
      (Disk.locate_of_extends hfilled ht) hmove (hsource ▸ hne)
    rw [hsource, hmoved, hfree]
  · exact hstays q hne hsource

/-- **A save is all or nothing**, for every name and every state of the disk, and whatever the
device refuses. If it fails, what was stored is stored as before, and nothing is new but
directories. If it succeeds, directories may be new too, and then one file is written: right inside
the directory of the store, under a name without a separator in which each code point that is not
safe is an underscore. -/
theorem save_atomic (store : FileStore) (device : Device) (r : Resource) (d : Disk) :
    match store.save device r d with
    | (.error _, d') => d.Grows d'
    | (.ok (), d') => ∃ made dir name, d.Grows made ∧ made.locate store.dir = .ok dir ∧
        made.at? dir = some .directory ∧
        name = ("resource_" : Text) ++ (r.name.map fun c => if isSafe c then c else '_') ++
          ".json" ∧
        FilePath.separator ∉ name ∧ d'.work = d.work ∧
        ∀ place, d'.at? place =
          if place = dir ++ [name] then some (.file (document r)) else made.at? place := by
  split
  · next h => exact grows_of_save_error h
  · next h =>
    obtain ⟨made, dir, hgrows, hdir, hdirectory, hwork, hat⟩ := at?_of_save_ok h
    exact ⟨made, dir, fileName r.name, hgrows, hdir, hdirectory, rfl,
      separator_not_mem_fileName r.name, hwork, hat⟩

end DesiredState.FileStore
