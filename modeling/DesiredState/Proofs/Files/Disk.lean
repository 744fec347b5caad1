import DesiredState.Files.Content
import DesiredState.Files.Disk

/-!
# Places that stay

What changes on a disk and what does not. Paths lead where they led as long as the directories on
the way stay; files are written and moved without touching a directory.

* `Disk.Extends`: every directory stays.
* `Disk.locate_of_extends`: **paths lead to the same places.**
* `Disk.Grows`: nothing but new directories.
* `Disk.grows_makeDirectories`, `Disk.makeDirectories_eq_self`: making directories.
* `Disk.write_ok`, `Disk.move_ok`: what a write and a move change.
* `Disk.replace_ok`: **a file written aside and moved to its place.**
* `Disk.DiffersAt`, `Disk.remove_of_differsAt`: a new file is gone without a trace when it is removed.
-/

namespace DesiredState.Disk

variable {d d' d'' : Disk} {p q : FilePath} {place place' : Place} {names : List Text} {name : Text}
  {node : FileNode}

/-! ### What is stored where -/

theorem at?_of_ne_nil (h : place ≠ []) : d.at? place = Entries.find? place d.nodes := by
  unfold at?
  split
  · exact absurd rfl h
  · rfl

theorem ne_nil_of_at? (h : d.at? place ≠ some .directory) : place ≠ [] := by
  rintro rfl
  exact h rfl

theorem at?_put (h : place ≠ []) (place' : Place) :
    (d.put place node).at? place' = if place = place' then some node else d.at? place' := by
  by_cases hne : place' = []
  · subst hne
    rw [if_neg h]
    rfl
  · rw [at?_of_ne_nil hne, at?_of_ne_nil hne]
    exact Entries.find?_set place' place node d.nodes

theorem at?_erase (h : place ≠ []) (place' : Place) :
    (d.erase place).at? place' = if place = place' then none else d.at? place' := by
  by_cases hne : place' = []
  · subst hne
    rw [if_neg h]
    rfl
  · rw [at?_of_ne_nil hne, at?_of_ne_nil hne]
    exact Entries.find?_filter_ne

/-! ### Where paths lead -/

/-- Every directory of one disk is one of the other, and the working directory is the same. -/
structure Extends (d d' : Disk) : Prop where
  work : d'.work = d.work
  directory : ∀ place, d.at? place = some .directory → d'.at? place = some .directory

theorem Extends.refl (d : Disk) : d.Extends d := ⟨rfl, fun _ h => h⟩

theorem Extends.trans (h : d.Extends d') (h' : d'.Extends d'') : d.Extends d'' :=
  ⟨h'.work.trans h.work, fun place hp => h'.directory place (h.directory place hp)⟩

/-- By induction on the names: each but the last leads to a directory, which stays. -/
theorem follow_of_extends (h : d.Extends d') (hmissing : d.follow place names ≠ .error .missing)
    (hfile : d.follow place names ≠ .error .notDirectory) :
    d'.follow place names = d.follow place names := by
  induction names generalizing place with
  | nil => rfl
  | cons name names ih =>
    unfold follow at hmissing hfile ⊢
    by_cases hup : name = FilePath.up
    · rw [if_pos hup] at hmissing hfile ⊢
      rw [if_pos hup]
      exact ih hmissing hfile
    rw [if_neg hup] at hmissing hfile ⊢
    rw [if_neg hup]
    by_cases hlong : isTooLong name = true
    · rw [if_pos hlong, if_pos hlong]
    rw [if_neg hlong] at hmissing hfile ⊢
    rw [if_neg hlong]
    cases names with
    | nil => rfl
    | cons name' names =>
      dsimp only at hmissing hfile ⊢
      cases hat : d.at? (place ++ [name]) with
      | none =>
        rw [hat] at hmissing
        exact absurd rfl hmissing
      | some node =>
        cases node with
        | file text =>
          rw [hat] at hfile
          exact absurd rfl hfile
        | directory =>
          rw [hat] at hmissing hfile
          rw [h.directory _ hat]
          exact ih hmissing hfile

/-- **Paths lead to the same places** while the directories stay. -/
theorem locate_of_extends (h : d.Extends d') (hl : d.locate p = .ok place) :
    d'.locate p = .ok place := by
  unfold locate at hl ⊢
  rw [h.work, follow_of_extends h (by rw [hl]; nofun) (by rw [hl]; nofun), hl]

/-- A name that is too long stays so. -/
theorem locate_tooLong_of_extends (h : d.Extends d') (hl : d.locate p = .error .nameTooLong) :
    d'.locate p = .error .nameTooLong := by
  unfold locate at hl ⊢
  rw [h.work, follow_of_extends h (by rw [hl]; nofun) (by rw [hl]; nofun), hl]

theorem follow_up : d.follow place (FilePath.up :: names) = d.follow place.dropLast names := by
  rw [follow, if_pos rfl]

/-- A name is followed if it is not too long, and to a directory if there are more names. -/
theorem follow_cons_eq_ok_iff (hup : name ≠ FilePath.up) :
    d.follow place (name :: names) = .ok place' ↔
      isTooLong name = false ∧ (names ≠ [] → d.at? (place ++ [name]) = some .directory) ∧
        d.follow (place ++ [name]) names = .ok place' := by
  rw [follow, if_neg hup]
  cases hlong : isTooLong name with
  | true => simp
  | false =>
    simp only [Bool.false_eq_true, if_false, true_and]
    cases names with
    | nil => simp [follow]
    | cons name' names =>
      cases hat : d.at? (place ++ [name]) with
      | none => simp
      | some node => cases node <;> simp

/-- A path that is longer by one name leads to that name in the directory of the path. -/
theorem follow_concat (h : d.follow place names = .ok place') (hd : d.at? place' = some .directory)
    (hup : name ≠ FilePath.up) (hlong : isTooLong name = false) :
    d.follow place (names ++ [name]) = .ok (place' ++ [name]) := by
  induction names generalizing place with
  | nil =>
    cases h
    exact (follow_cons_eq_ok_iff hup).2 ⟨hlong, absurd rfl, rfl⟩
  | cons first names ih =>
    rw [List.cons_append]
    by_cases hfirst : first = FilePath.up
    · rw [hfirst, follow_up] at h ⊢
      exact ih h
    obtain ⟨hl, hdir, hrest⟩ := (follow_cons_eq_ok_iff hfirst).1 h
    refine (follow_cons_eq_ok_iff hfirst).2 ⟨hl, fun _ => ?_, ih hrest⟩
    cases names with
    | nil =>
      cases hrest
      exact hd
    | cons second names => exact hdir (List.cons_ne_nil second names)

/-- The last name of a path is the last name of its place. -/
theorem follow_concat_ok (h : d.follow place (names ++ [name]) = .ok place')
    (hup : name ≠ FilePath.up) : ∃ base, place' = base ++ [name] ∧ isTooLong name = false := by
  induction names generalizing place with
  | nil =>
    obtain ⟨hlong, -, hplace⟩ := (follow_cons_eq_ok_iff hup).1 h
    cases hplace
    exact ⟨place, rfl, hlong⟩
  | cons first names ih =>
    rw [List.cons_append] at h
    by_cases hfirst : first = FilePath.up
    · rw [hfirst, follow_up] at h
      exact ih h
    · exact ih ((follow_cons_eq_ok_iff hfirst).1 h).2.2

theorem locate_child (h : d.locate p = .ok place) (hd : d.at? place = some .directory)
    (hup : name ≠ FilePath.up) (hlong : isTooLong name = false) :
    d.locate (p.child name) = .ok (place ++ [name]) :=
  follow_concat h hd hup hlong

theorem locate_child_ok (h : d.locate (p.child name) = .ok place) (hup : name ≠ FilePath.up) :
    ∃ base, place = base ++ [name] ∧ isTooLong name = false :=
  follow_concat_ok h hup

/-! ### Files -/

/-- Directories stay when a file is stored where no directory is. -/
theorem extends_put_file (h : d.at? place ≠ some .directory) (text : Text) :
    d.Extends (d.put place (.file text)) := by
  refine ⟨rfl, fun q hq => ?_⟩
  rw [at?_put (ne_nil_of_at? h)]
  by_cases hpq : place = q
  · subst hpq
    exact absurd hq h
  · rwa [if_neg hpq]

/-- Directories stay when something else is taken away. -/
theorem extends_erase (h : d.at? place ≠ some .directory) : d.Extends (d.erase place) := by
  refine ⟨rfl, fun q hq => ?_⟩
  rw [at?_erase (ne_nil_of_at? h)]
  by_cases hpq : place = q
  · subst hpq
    exact absurd hq h
  · rwa [if_neg hpq]

/-- A write stores the text where the path leads, if that is no directory. -/
theorem write_ok {text : Text} (h : d.write p text = .ok d') :
    ∃ place, d.locate p = .ok place ∧ d.at? place ≠ some .directory ∧
      d' = d.put place (.file text) := by
  unfold write modify at h
  split at h
  · cases h
  · next place hl =>
    split at h
    · cases h
    · next hat =>
      cases h
      exact ⟨place, hl, by rw [hat]; nofun, rfl⟩
    · next hat =>
      cases h
      exact ⟨place, hl, by rw [hat]; nofun, rfl⟩

/-- A move takes the file from its place and stores it where the target leads. -/
theorem move_ok (h : d.move p q = .ok d') :
    ∃ source target text, d.locate p = .ok source ∧ d.locate q = .ok target ∧
      d.at? source = some (.file text) ∧ d.at? target ≠ some .directory ∧
      d' = (d.erase source).put target (.file text) := by
  unfold move at h
  dsimp only at h
  split at h
  · cases h
  · cases h
  · next source target hs ht =>
    split at h
    · cases h
    · cases h
    · cases h
    · next text hsource htarget =>
      cases h
      exact ⟨source, target, text, hs, ht, hsource, htarget, rfl⟩

/-- **A file that is written aside and then moved** stands where the second path leads. The place
aside is free again, and nothing else has changed. -/
theorem replace_ok {d₁ d₂ d₃ : Disk} {text : Text} (hopen : d.write p [] = .ok d₁)
    (hfill : d₁.write p text = .ok d₂) (hmove : d₂.move p q = .ok d₃) :
    ∃ source target, d.locate p = .ok source ∧ d.locate q = .ok target ∧ d.Extends d₃ ∧
      d₃.at? target = some (.file text) ∧
      ∀ place, place ≠ target → place ≠ source → d₃.at? place = d.at? place := by
  obtain ⟨source, hp, hfree, rfl⟩ := write_ok hopen
  have hopened := extends_put_file hfree []
  obtain ⟨source', hp', hfree', rfl⟩ := write_ok hfill
  cases (locate_of_extends hopened hp).symm.trans hp'
  have hfilled := hopened.trans (extends_put_file hfree' text)
  have hsource := ne_nil_of_at? hfree
  have hat : ∀ place, ((d.put source (.file [])).put source (.file text)).at? place =
      if source = place then some (.file text) else d.at? place := by
    intro place
    rw [at?_put hsource, at?_put hsource]
    split <;> rfl
  generalize (d.put source (.file [])).put source (.file text) = full at hat hfilled hmove
  obtain ⟨source', target, text', hs, ht, htext, hfree'', rfl⟩ := move_ok hmove
  cases (locate_of_extends hfilled hp).symm.trans hs
  rw [hat, if_pos rfl] at htext
  cases htext
  have htarget := ne_nil_of_at? hfree''
  -- the file aside was no directory, so paths lead where they led before it was written
  have hback : full.Extends d := by
    refine ⟨hfilled.work.symm, fun place hplace => ?_⟩
    rw [hat] at hplace
    split at hplace
    · cases hplace
    · exact hplace
  have hfile : full.at? source ≠ some .directory := by
    rw [hat, if_pos rfl]
    nofun
  have herased : (full.erase source).at? target ≠ some .directory := by
    rw [at?_erase hsource]
    split
    · nofun
    · exact hfree''
  refine ⟨source, target, hp, locate_of_extends hback ht, ?_, ?_, fun place hne hne' => ?_⟩
  · exact (hfilled.trans (extends_erase hfile)).trans (extends_put_file herased text)
  · rw [at?_put htarget, if_pos rfl]
  · rw [at?_put htarget, if_neg (Ne.symm hne), at?_erase hsource, if_neg (Ne.symm hne'), hat,
      if_neg (Ne.symm hne')]

/-! ### Files that come and go -/

/-- Two disks hold the same but for one place. -/
structure DiffersAt (place : Place) (d d' : Disk) : Prop where
  work : d'.work = d.work
  stays : ∀ q, q ≠ place → d'.at? q = d.at? q

theorem DiffersAt.refl (place : Place) (d : Disk) : DiffersAt place d d := ⟨rfl, fun _ _ => rfl⟩

theorem DiffersAt.trans (h : DiffersAt place d d') (h' : DiffersAt place d' d'') :
    DiffersAt place d d'' :=
  ⟨h'.work.trans h.work, fun q hq => (h'.stays q hq).trans (h.stays q hq)⟩

theorem DiffersAt.extends (h : DiffersAt place d d') (hfree : d.at? place ≠ some .directory) :
    d.Extends d' := by
  refine ⟨h.work, fun q hq => ?_⟩
  rw [h.stays q (fun heq => hfree (heq ▸ hq)), hq]

theorem differsAt_put (hne : place ≠ []) (node : FileNode) :
    DiffersAt place d (d.put place node) :=
  ⟨rfl, fun q hq => by rw [at?_put hne, if_neg (Ne.symm hq)]⟩

theorem differsAt_write {text : Text} (hl : d.locate p = .ok place)
    (h : d.write p text = .ok d') : DiffersAt place d d' := by
  obtain ⟨place', hl', hfree, rfl⟩ := write_ok h
  cases hl.symm.trans hl'
  exact differsAt_put (ne_nil_of_at? hfree) _

/-- **A new file is gone without a trace** when it is removed. -/
theorem remove_of_differsAt (hl : d.locate p = .ok place) (hfree : d.at? place = none)
    (h : DiffersAt place d d') :
    (d'.remove p).work = d.work ∧ ∀ q, (d'.remove p).at? q = d.at? q := by
  have hdirectory : d.at? place ≠ some .directory := by
    rw [hfree]
    nofun
  have hl' := locate_of_extends (h.extends hdirectory) hl
  unfold remove
  rw [hl']
  refine ⟨h.work, fun q => ?_⟩
  rw [at?_erase (ne_nil_of_at? hdirectory)]
  split
  · next heq => rw [← heq, hfree]
  · next hne => exact h.stays q (Ne.symm hne)

/-- A moved file is no longer where it was. -/
theorem at?_of_move {source target : Place} (hs : d.locate p = .ok source)
    (ht : d.locate q = .ok target) (h : d.move p q = .ok d') (hne : source ≠ target) :
    d'.at? source = none := by
  obtain ⟨source', target', text, hs', ht', hsource, htarget, rfl⟩ := move_ok h
  cases hs.symm.trans hs'
  cases ht.symm.trans ht'
  have hfile : d.at? source ≠ some .directory := by
    rw [hsource]
    nofun
  rw [at?_put (ne_nil_of_at? htarget), if_neg (Ne.symm hne), at?_erase (ne_nil_of_at? hfile),
    if_pos rfl]

/-! ### Directories -/

/-- One disk is the other with nothing but new directories. -/
structure Grows (d d' : Disk) : Prop where
  work : d'.work = d.work
  stays : ∀ place node, d.at? place = some node → d'.at? place = some node
  new : ∀ place, d.at? place = none → d'.at? place = none ∨ d'.at? place = some .directory

theorem Grows.refl (d : Disk) : d.Grows d := ⟨rfl, fun _ _ h => h, fun _ h => .inl h⟩

theorem Grows.trans (h : d.Grows d') (h' : d'.Grows d'') : d.Grows d'' := by
  refine ⟨h'.work.trans h.work, fun place node hp => h'.stays place node (h.stays place node hp),
    fun place hp => ?_⟩
  rcases h.new place hp with hnone | hdir
  · exact h'.new place hnone
  · exact .inr (h'.stays place _ hdir)

theorem Grows.of_at? (hwork : d'.work = d.work) (hat : ∀ q, d'.at? q = d.at? q) : d.Grows d' :=
  ⟨hwork, fun q _ hq => (hat q).trans hq, fun q hq => .inl ((hat q).trans hq)⟩

theorem Grows.extends (h : d.Grows d') : d.Extends d' :=
  ⟨h.work, fun place hp => h.stays place _ hp⟩

theorem isDirectory_iff :
    d.isDirectory p = true ↔ ∃ place, d.locate p = .ok place ∧ d.at? place = some .directory := by
  unfold isDirectory
  cases d.locate p with
  | error cause => simp
  | ok place => simp

/-- A directory is made where nothing was. -/
theorem makeDirectory_ok (h : d.makeDirectory p = .ok d') :
    d.Grows d' ∧ d'.isDirectory p = true := by
  unfold makeDirectory at h
  split at h
  · cases h
  · next place hl =>
    split at h
    · cases h
    · next hfree =>
      cases h
      have hnone : d.at? place = none := Option.not_isSome_iff_eq_none.1 hfree
      have hne : place ≠ [] := ne_nil_of_at? (by rw [hnone]; nofun)
      have hgrows : d.Grows (d.put place .directory) := by
        refine ⟨rfl, fun q node hq => ?_, fun q hq => ?_⟩
        · rw [at?_put hne, if_neg ?_]
          · exact hq
          · rintro rfl
            rw [hnone] at hq
            cases hq
        · rw [at?_put hne]
          by_cases hpq : place = q
          · exact .inr (if_pos hpq)
          · exact .inl (by rwa [if_neg hpq])
      refine ⟨hgrows, isDirectory_iff.2 ⟨place, locate_of_extends hgrows.extends hl, ?_⟩⟩
      rw [at?_put hne, if_pos rfl]

theorem ensureDirectory_ok (h : d.ensureDirectory p = .ok d') :
    d.Grows d' ∧ d'.isDirectory p = true := by
  unfold ensureDirectory at h
  split at h
  · next hmade =>
    cases h
    exact makeDirectory_ok hmade
  · split at h
    · next hthere =>
      cases h
      exact ⟨.refl d, hthere.2⟩
    · cases h

theorem ensureDirectory_eq_self (h : d.isDirectory p = true) : d.ensureDirectory p = .ok d := by
  obtain ⟨place, hl, hd⟩ := isDirectory_iff.1 h
  unfold ensureDirectory makeDirectory
  simp only [hl, hd, Option.isSome_some, if_true]
  rw [if_pos ⟨nofun, h⟩]

theorem grows_makeDirectoriesWithin (depth : Nat) (d : Disk) (p : FilePath) :
    d.Grows (d.makeDirectoriesWithin depth p).2 := by
  induction depth generalizing d p with
  | zero =>
    unfold makeDirectoriesWithin
    split
    · next hmade => exact (ensureDirectory_ok hmade).1
    · exact .refl d
  | succ depth ih =>
    unfold makeDirectoriesWithin
    split
    · next hmade => exact (ensureDirectory_ok hmade).1
    split
    · -- the directories on the way are made first, and they stay whatever comes of the last one
      have hparents := ih d p.parent
      split
      · next hparent => rwa [hparent] at hparents
      · next hparent =>
        rw [hparent] at hparents
        split
        · next hmade => exact hparents.trans (ensureDirectory_ok hmade).1
        · exact hparents
    · exact .refl d

/-- Whether all directories can be made or not, nothing else changes. -/
theorem grows_makeDirectories (d : Disk) (p : FilePath) : d.Grows (d.makeDirectories p).2 :=
  grows_makeDirectoriesWithin _ d p

theorem isDirectory_of_makeDirectoriesWithin {depth : Nat}
    (h : d.makeDirectoriesWithin depth p = (.ok (), d')) : d'.isDirectory p = true := by
  cases depth with
  | zero =>
    unfold makeDirectoriesWithin at h
    split at h
    · next hmade =>
      cases h
      exact (ensureDirectory_ok hmade).2
    · cases h
  | succ depth =>
    unfold makeDirectoriesWithin at h
    split at h
    · next hmade =>
      cases h
      exact (ensureDirectory_ok hmade).2
    split at h
    · split at h
      · cases h
      · split at h
        · next hmade =>
          cases h
          exact (ensureDirectory_ok hmade).2
        · cases h
    · cases h

/-- Directories are made, and nothing else changes. -/
theorem makeDirectories_grows (h : d.makeDirectories p = (.ok (), d')) :
    d.Grows d' ∧ d'.isDirectory p = true := by
  have hgrows := grows_makeDirectories d p
  rw [h] at hgrows
  exact ⟨hgrows, isDirectory_of_makeDirectoriesWithin h⟩

/-- A directory that is there need not be made. -/
theorem makeDirectories_eq_self (h : d.isDirectory p = true) :
    d.makeDirectories p = (.ok (), d) := by
  have hmade := ensureDirectory_eq_self h
  unfold makeDirectories
  cases p.names.length <;> simp only [makeDirectoriesWithin, hmade]

end DesiredState.Disk
