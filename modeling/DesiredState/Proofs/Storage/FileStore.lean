import DesiredState.Proofs.Files.Disk
import DesiredState.Proofs.Resource.Document
import DesiredState.Storage.FileStore

/-!
# What a store of files remembers

A save puts the document of a resource into the file of its name and leaves all other files of the
directory alone; the temporary file it goes through has a name that no resource has. So a load gives
what was saved last into the file of the name. Names differ from file names, though: each code point
that a file name may not have is an underscore there, and names that become the same share a file.

* `FileStore.save_ok`: what one save changes.
* `FileStore.Holds`: the files hold the resources saved last in them; `Holds.save` keeps it.
* `FileStore.load_after_saves`: **a load gives the resource saved last under a name that is the same
  in a file name.**
* `FileStore.load_other_name`: it may have another name than the one that was asked for.
* `FileStore.load_of_save`: **after a save, a load under its name gives the very resource.**
-/

namespace DesiredState.FileStore

variable {store : FileStore} {device : Device} {r : Resource} {d d' : Disk} {place base : Place}
  {n n' : Text}

/-! ### Names of files -/

theorem fileName_eq_iff : fileName n = fileName n' ↔ safeName n = safeName n' := by
  unfold fileName
  rw [List.append_left_inj, List.append_right_inj]

theorem fileName_ne_up (n : Text) : fileName n ≠ FilePath.up := nofun

theorem temporaryName_ne_up (k : Nat) : temporaryName k ≠ FilePath.up := nofun

theorem temporaryName_ne_fileName (k : Nat) (n : Text) : temporaryName k ≠ fileName n := nofun

/-- The temporary file has a temporary name. -/
theorem temporary_eq (store : FileStore) (d : Disk) :
    ∃ k, store.temporary d = (d.absolute store.dir).child (temporaryName k) := by
  unfold temporary
  dsimp only
  cases hfind : ((List.range (d.nodes.length + 1)).map temporaryName).find?
      fun name => isFree d ((d.absolute store.dir).child name) with
  | none => exact ⟨0, rfl⟩
  | some name =>
    obtain ⟨k, -, rfl⟩ := List.mem_map.1 (List.mem_of_find?_eq_some hfind)
    exact ⟨k, rfl⟩

/-! ### What a save changes -/

theorem fill_ok {p : FilePath} (h : fill device r p d = (.ok (), d')) :
    Json.isWritable r.toJson = true ∧ d.write p (document r) = .ok d' := by
  unfold fill at h
  dsimp only at h
  split at h
  · split at h <;> cases h
  · split at h
    · split at h <;> cases h
    · next hw =>
      split at h
      · cases h
      · next d₁ hwrite =>
        cases h
        exact ⟨by simpa using hw, hwrite⟩

theorem allowed_ok {α : Type} {refusal : Option Text} {step : Except FileFault α} {a : α}
    (h : allowed refusal step = .ok a) : step = .ok a := by
  unfold allowed at h
  split at h
  · cases h
  · cases h
  · cases h
    rfl

/-- The state of a disk after a save: the document stands where the path of the resource leads,
one temporary file is gone, and everything else is as it was when the directory had been made. -/
structure Stored (store : FileStore) (r : Resource) (d₁ d' : Disk) (place temporary : Place) :
    Prop where
  writable : Json.isWritable r.toJson = true
  located : d₁.locate (store.path r.name) = .ok place
  document : d'.at? place = some (.file (document r))
  directories : d₁.Extends d'
  temporary_name : ∃ base k, temporary = base ++ [temporaryName k]
  stays : ∀ q, q ≠ place → q ≠ temporary → d'.at? q = d₁.at? q

theorem prepare_ok (h : prepare device store d = (.ok (), d')) :
    d.makeDirectories store.dir = (.ok (), d') := by
  unfold prepare at h
  split at h
  · cases h
  · split at h
    · cases h
    · next d₁ hmade =>
      cases h
      exact hmade

/-- The steps of a save: the directory, the temporary file, its text, and the move. -/
theorem save_steps (h : store.save device r d = (.ok (), d')) :
    ∃ made opened filled, d.makeDirectories store.dir = (.ok (), made) ∧
      made.write (store.temporary made) [] = .ok opened ∧ Json.isWritable r.toJson = true ∧
      opened.write (store.temporary made) (document r) = .ok filled ∧
      filled.move (store.temporary made) (store.path r.name) = .ok d' := by
  unfold save at h
  split at h
  · cases h
  next made hprepare =>
  dsimp only at h
  split at h
  · cases h
  next opened hopen =>
  split at h
  · cases h
  next filled hfill =>
  split at h
  · cases h
  next moved hmove =>
  cases h
  obtain ⟨hw, hwrite⟩ := fill_ok hfill
  exact ⟨made, opened, filled, prepare_ok hprepare, allowed_ok hopen, hw, hwrite,
    allowed_ok hmove⟩

theorem save_ok (h : store.save device r d = (.ok (), d')) :
    ∃ d₁ place temporary, d.makeDirectories store.dir = (.ok (), d₁) ∧
      Stored store r d₁ d' place temporary := by
  obtain ⟨d₁, opened, filled, hmade, hopen, hw, hwrite, hmove⟩ := save_steps h
  obtain ⟨temporary, place, hl, hp, hextends, hdocument, hstays⟩ :=
    Disk.replace_ok hopen hwrite hmove
  obtain ⟨k, hk⟩ := temporary_eq store d₁
  rw [hk] at hl
  obtain ⟨base, htemporary, -⟩ := Disk.locate_child_ok hl (temporaryName_ne_up k)
  exact ⟨d₁, place, temporary, hmade, hw, hp, hdocument, hextends, ⟨base, k, htemporary⟩, hstays⟩

/-! ### Runs of saves -/

/-- Resources saved one after the other, each with success, on devices of any kind. -/
inductive Saved (store : FileStore) (d : Disk) : List Resource → Disk → Prop
  | nil : Saved store d [] d
  | save {rs : List Resource} {r : Resource} {d₁ d₂ : Disk} (device : Device)
      (hs : Saved store d rs d₁) (h : store.save device r d₁ = (.ok (), d₂)) :
      Saved store d (rs ++ [r]) d₂

/-- The directory of the store can be made, and then nothing is in it. -/
def StartsEmpty (store : FileStore) (d : Disk) : Prop :=
  ∃ d₁ base, d.makeDirectories store.dir = (.ok (), d₁) ∧ d₁.locate store.dir = .ok base ∧
    ∀ name, d₁.at? (base ++ [name]) = none

/-- The resource saved last under a name that is the same as `n` in a file name. -/
def lastAlike (n : Text) (rs : List Resource) : Option Resource :=
  rs.reverse.find? fun r => safeName r.name = safeName n

/-- The resource saved last under exactly the name `n`. -/
def lastNamed (n : Text) (rs : List Resource) : Option Resource :=
  rs.reverse.find? fun r => r.name = n

theorem lastAlike_concat (n : Text) (rs : List Resource) (r : Resource) :
    lastAlike n (rs ++ [r]) = if safeName r.name = safeName n then some r else lastAlike n rs := by
  unfold lastAlike
  rw [List.reverse_append, List.reverse_singleton, List.singleton_append, List.find?_cons]
  by_cases h : safeName r.name = safeName n
  · simp [h]
  · simp [h]

theorem mem_of_lastAlike {rs : List Resource} (h : lastAlike n rs = some r) : r ∈ rs :=
  List.mem_reverse.1 (List.mem_of_find?_eq_some h)

/-- The resource saved last in the file of a name is the one saved last under the name if it has
this name. -/
theorem lastAlike_eq_lastNamed_iff {rs : List Resource} :
    lastAlike n rs = lastNamed n rs ↔ ∀ r, lastAlike n rs = some r → r.name = n := by
  constructor
  · intro h r hr
    rw [h, lastNamed] at hr
    have hname := List.find?_some hr
    exact of_decide_eq_true hname
  · intro h
    unfold lastAlike lastNamed at *
    generalize rs.reverse = latest at h ⊢
    induction latest with
    | nil => rfl
    | cons r rs ih =>
      rw [List.find?_cons] at h ⊢
      rw [List.find?_cons]
      by_cases hname : r.name = n
      · simp [hname]
      · by_cases halike : safeName r.name = safeName n
        · simp only [halike, decide_true] at h
          exact absurd (h r rfl) hname
        · simp only [halike, hname, decide_false] at h ⊢
          exact ih h

/-- The directory of the store is there, and its files hold the resources saved last in them. -/
structure Holds (store : FileStore) (rs : List Resource) (d : Disk) (base : Place) : Prop where
  located : d.locate store.dir = .ok base
  directory : d.at? base = some .directory
  writable : ∀ r ∈ rs, Json.isWritable r.toJson = true
  files : ∀ n, Disk.isTooLong (fileName n) = false →
    d.at? (base ++ [fileName n]) = (lastAlike n rs).map fun r => .file (document r)

/-- An empty directory holds no resources. -/
theorem holds_nil (hmade : d.makeDirectories store.dir = (.ok (), d'))
    (hl : d'.locate store.dir = .ok base) (hempty : ∀ name, d'.at? (base ++ [name]) = none) :
    Holds store [] d' base := by
  obtain ⟨base', hl', hd⟩ := Disk.isDirectory_iff.1 (Disk.makeDirectories_grows hmade).2
  cases hl.symm.trans hl'
  exact ⟨hl, hd, List.forall_mem_nil _, fun n _ => hempty (fileName n)⟩

/-- A save keeps what the store holds once its directory is made, and adds its resource. -/
theorem Holds.save {rs : List Resource} {d₁ : Disk} (hh : Holds store rs d₁ base)
    (hmade : d.makeDirectories store.dir = (.ok (), d₁))
    (h : store.save device r d = (.ok (), d')) : Holds store (rs ++ [r]) d' base := by
  obtain ⟨d₂, place, temporary, hmade', hstored⟩ := save_ok h
  cases hmade.symm.trans hmade'
  obtain ⟨base', hbase', hshort⟩ := Disk.locate_child_ok hstored.located (fileName_ne_up r.name)
  have hplace : place = base ++ [fileName r.name] := by
    have hchild := Disk.locate_child hh.located hh.directory (fileName_ne_up r.name) hshort
    exact Except.ok.inj (hstored.located.symm.trans hchild)
  refine ⟨Disk.locate_of_extends hstored.directories hh.located,
    hstored.directories.directory base hh.directory, ?_, fun n hn => ?_⟩
  · exact List.forall_mem_append.2 ⟨hh.writable, List.forall_mem_singleton.2 hstored.writable⟩
  rw [lastAlike_concat]
  by_cases hsame : safeName r.name = safeName n
  · rw [if_pos hsame, ← fileName_eq_iff.2 hsame, ← hplace]
    exact hstored.document
  · rw [if_neg hsame, ← hh.files n hn]
    -- the file of `n` is neither that of the resource nor the temporary one
    refine hstored.stays _ ?_ ?_
    · rw [hplace]
      intro heq
      exact hsame (fileName_eq_iff.1 (by simpa using (List.append_inj' heq rfl).2.symm))
    · obtain ⟨base'', k, htemporary⟩ := hstored.temporary_name
      rw [htemporary]
      intro heq
      exact temporaryName_ne_fileName k n (by simpa using (List.append_inj' heq rfl).2.symm)

/-- By induction on the saves: the first makes the directory, the others find it. -/
theorem Saved.holds {rs : List Resource} (hstart : store.StartsEmpty d)
    (hs : Saved store d rs d') : (rs = [] ∧ d' = d) ∨ ∃ base, Holds store rs d' base := by
  induction hs with
  | nil => exact .inl ⟨rfl, rfl⟩
  | @save rs r d₁ d₂ device hs h ih =>
    right
    rcases ih with ⟨rfl, rfl⟩ | ⟨base, hh⟩
    · obtain ⟨made, base, hmade, hl, hempty⟩ := hstart
      exact ⟨base, (holds_nil hmade hl hempty).save hmade h⟩
    · have hthere : d₁.isDirectory store.dir = true :=
        Disk.isDirectory_iff.2 ⟨base, hh.located, hh.directory⟩
      exact ⟨base, hh.save (Disk.makeDirectories_eq_self hthere) h⟩

/-! ### Loading -/

/-- A resource that a document can carry: as the checks make it, and without surrogate pairs. -/
structure Storable (r : Resource) : Prop where
  tidy : r.IsTidy
  texts : ∀ t ∈ r.texts, t.IsUnpaired

/-- A document is read as it was written. -/
theorem readText_document {p : FilePath} (hl : d.locate p = .ok place)
    (hat : d.at? place = some (.file (document r))) : d.readText p = .ok (document r) := by
  have hlines : Text.withLineFeeds (document r) = document r := by
    refine Text.withLineFeeds_eq_self fun c hc => ?_
    have hlined := Json.isLined_encodeIndented r.toJson 0 c hc
    intro hreturn
    simp [Json.isLined, Json.isVisible, hreturn] at hlined
  unfold Disk.readText Disk.read
  rw [hl]
  simp only [hat, Except.map, hlines]

/-- A document at the path of a name is the resource again. -/
theorem load_document (hl : d.locate (store.path n) = .ok place)
    (hat : d.at? place = some (.file (document r))) (hr : Storable r)
    (hw : Json.isWritable r.toJson = true) : store.load n d = .ok (some r) := by
  have hthere : d.isThere (store.path n) = .ok true := by
    unfold Disk.isThere
    rw [hl]
    dsimp only
    rw [hat, Option.isSome_some]
  have htext : d.readText (store.path n) = .ok (document r) := readText_document hl hat
  obtain ⟨v, hdecode, hform⟩ := Resource.decodeStored_document hr.tidy hr.texts hw 2
  have hdocument : Json.decodeStored (document r) = .ok v := hdecode
  unfold FileStore.load
  simp only [hthere, htext, hdocument, hform]

/-- The file of a name gives the resource that was saved last in it. -/
theorem Holds.load {rs : List Resource} (hh : Holds store rs d base)
    (hr : ∀ r, lastAlike n rs = some r → Storable r) (hn : Disk.isTooLong (fileName n) = false) :
    store.load n d = .ok (lastAlike n rs) := by
  have hl : d.locate (store.path n) = .ok (base ++ [fileName n]) :=
    Disk.locate_child hh.located hh.directory (fileName_ne_up n) hn
  have hfile := hh.files n hn
  cases hlast : lastAlike n rs with
  | none =>
    rw [hlast, Option.map_none] at hfile
    have habsent : d.isThere (store.path n) = .ok false := by
      unfold Disk.isThere
      rw [hl]
      dsimp only
      rw [hfile, Option.isSome_none]
    unfold FileStore.load
    dsimp only
    rw [habsent]
  | some r =>
    rw [hlast, Option.map_some] at hfile
    exact load_document hl hfile (hr r hlast) (hh.writable r (mem_of_lastAlike hlast))

/-- A store that starts empty has no resource. -/
theorem StartsEmpty.load (hstart : store.StartsEmpty d)
    (hn : Disk.isTooLong (fileName n) = false) : store.load n d = .ok none := by
  obtain ⟨d₁, base, hmade, hl, hempty⟩ := hstart
  have hgrows := (Disk.makeDirectories_grows hmade).1
  have hd := (holds_nil hmade hl hempty).directory
  have hchild := Disk.locate_child hl hd (fileName_ne_up n) hn
  have hisThere : d.isThere (store.path n) = .ok false := by
    unfold Disk.isThere path
    -- where the path leads already, it leads when the directory is made, and nothing is there
    cases hold : d.locate (store.dir.child (fileName n)) with
    | ok place =>
      have hsame := Disk.locate_of_extends hgrows.extends hold
      rw [hchild] at hsame
      cases hsame
      cases hat : d.at? (base ++ [fileName n]) with
      | none => simp only [hat, Option.isSome_none]
      | some node =>
        have hstays := hgrows.stays _ node hat
        rw [hempty] at hstays
        cases hstays
    | error cause =>
      cases cause with
      | nameTooLong =>
        have hlong := Disk.locate_tooLong_of_extends hgrows.extends hold
        rw [hchild] at hlong
        cases hlong
      | _ => rfl
  unfold FileStore.load
  dsimp only
  rw [hisThere]

/-- A load after saves gives the resource that was saved last in the file of the name. -/
theorem Saved.load {rs : List Resource} (hs : Saved store d rs d') (hstart : store.StartsEmpty d)
    (hr : ∀ r, lastAlike n rs = some r → Storable r) (hn : Disk.isTooLong (fileName n) = false) :
    store.load n d' = .ok (lastAlike n rs) := by
  rcases hs.holds hstart with ⟨rfl, rfl⟩ | ⟨base, hh⟩
  · exact hstart.load hn
  · exact hh.load hr hn

/-- **What a load after saves gives.** It is the resource that was saved last under a name with the
same safe form, and so the one that was saved last under this very name exactly if it has this name.
A save under a name with another safe form changes nothing. -/
theorem load_after_saves (store : FileStore) (d d' : Disk) (rs : List Resource) (n : Text)
    (hstart : store.StartsEmpty d) (hs : Saved store d rs d')
    (hr : ∀ r, lastAlike n rs = some r → Storable r) (hn : Disk.isTooLong (fileName n) = false) :
    store.load n d' = .ok (lastAlike n rs) ∧
      (store.load n d' = .ok (lastNamed n rs) ↔ ∀ r, lastAlike n rs = some r → r.name = n) ∧
      ∀ device r d'', store.save device r d' = (.ok (), d'') → safeName r.name ≠ safeName n →
        store.load n d'' = store.load n d' := by
  have hload := hs.load hstart hr hn
  refine ⟨hload, ?_, fun device r d'' hsave hne => ?_⟩
  · rw [← lastAlike_eq_lastNamed_iff, hload, Except.ok.injEq]
  · have hsame : lastAlike n (rs ++ [r]) = lastAlike n rs := by
      rw [lastAlike_concat, if_neg hne]
    have hnext := (hs.save device hsave).load hstart (fun r' h => hr r' (hsame ▸ h)) hn
    rw [hnext, hsame, hload]

/-- A resource with a name and a base URL. -/
def plain (name : Text) : Resource := ⟨name, ⟨⟨"u", []⟩, [], [], false⟩, .empty⟩

/-- A store in a directory of its own. -/
def stateStore : FileStore := ⟨⟨[], ["state"]⟩⟩

/-- The disk without files, after a resource was saved. -/
def diskWith (r : Resource) : Disk := (stateStore.save .sound r ⟨[], []⟩).2

theorem startsEmpty_stateStore : stateStore.StartsEmpty ⟨[], []⟩ := by
  refine ⟨⟨[(["state"], .directory)], []⟩, ["state"], rfl, rfl, fun name => ?_⟩
  have hne : [("state" : Text)] ≠ [("state" : Text)] ++ [name] := by
    intro h
    cases h
  have hplace : [("state" : Text)] ++ [name] ≠ [] := List.append_ne_nil_of_right_ne_nil _ nofun
  rw [Disk.at?_of_ne_nil hplace, Entries.find?, if_neg hne]
  rfl

theorem storable_plain {name : Text} (h : name.IsUnpaired) : Storable (plain name) := by
  have htexts : (plain name).texts = [name, "u", [], [], [], [], [], []] := rfl
  refine ⟨⟨List.nodup_nil, List.forall_mem_nil _, List.forall_mem_nil _, List.nodup_nil,
    List.nodup_nil, List.nodup_nil⟩, ?_⟩
  rw [htexts]
  exact List.forall_mem_cons.2 ⟨h, by decide⟩

theorem saved_plain (name : Text)
    (h : stateStore.save .sound (plain name) ⟨[], []⟩ = (.ok (), diskWith (plain name))) :
    Saved stateStore ⟨[], []⟩ [plain name] (diskWith (plain name)) := by
  have hnil : Saved stateStore ⟨[], []⟩ [] ⟨[], []⟩ := .nil
  exact hnil.save .sound h

/-- The resource is loaded again, and it has the name that was asked for. -/
theorem load_saved_plain :
    stateStore.StartsEmpty ⟨[], []⟩ ∧
      Saved stateStore ⟨[], []⟩ [plain "a"] (diskWith (plain "a")) ∧
      stateStore.load "a" (diskWith (plain "a")) = .ok (some (plain "a")) := by
  have hs := saved_plain "a" (by decide +kernel)
  have hload := load_after_saves stateStore ⟨[], []⟩ _ [plain "a"] "a" startsEmpty_stateStore hs
    (fun r hr => by
      cases hr
      exact storable_plain (by decide)) (by decide)
  exact ⟨startsEmpty_stateStore, hs, hload.1⟩

/-- **Two names share a file.** Nothing was saved under the name `a_b`, but a load gives the
resource that was saved under the name `a/b`. -/
theorem load_other_name :
    Saved stateStore ⟨[], []⟩ [plain "a/b"] (diskWith (plain "a/b")) ∧
      lastNamed "a_b" [plain "a/b"] = none ∧
      stateStore.load "a_b" (diskWith (plain "a/b")) = .ok (some (plain "a/b")) := by
  have hs := saved_plain "a/b" (by decide +kernel)
  have hload : stateStore.load "a_b" (diskWith (plain "a/b")) =
      .ok (lastAlike "a_b" [plain "a/b"]) := by
    refine hs.load startsEmpty_stateStore (fun r hr => ?_) (by decide)
    cases hr
    exact storable_plain (by decide)
  exact ⟨hs, rfl, hload⟩

/-! ### One save and the load after it -/

/-- What the checks accept can be carried by a document if no text has a surrogate. -/
theorem storable_of_ofData {data : Data} (hchecked : Resource.ofData data = .ok r)
    (htexts : ∀ t ∈ r.texts, t.NoSurrogates) : Storable r where
  tidy := Resource.isTidy_of_ofData hchecked
  texts t ht := Text.isUnpaired_of_noSurrogates (htexts t ht)

/-- What a save puts into the file of a resource is loaded under its name. -/
theorem Stored.load {temporary : Place} (hstored : Stored store r d d' place temporary)
    (hr : Storable r) : store.load r.name d' = .ok (some r) := by
  have hl : d'.locate (store.path r.name) = .ok place :=
    Disk.locate_of_extends hstored.directories hstored.located
  exact load_document hl hstored.document hr hstored.writable

/-- **A save and a load are inverse.** When a resource that the checks accepted is saved, whatever
the disk holds and the device may refuse, a load under its name gives this resource; the text of its
file is read as the document that was written, and the checks find the resource in the document
without changing anything. -/
theorem load_of_save (store : FileStore) (device : Device) (d d' : Disk) (data : Data)
    (r : Resource) (hchecked : Resource.ofData data = .ok r)
    (htexts : ∀ t ∈ r.texts, t.NoSurrogates) (hsave : store.save device r d = (.ok (), d')) :
    store.load r.name d' = .ok (some r) ∧ Json.decodeStored (document r) = .ok r.toJson ∧
      Resource.ofData (Data.ofJson r.toJson) = .ok r := by
  have hr := storable_of_ofData hchecked htexts
  obtain ⟨d₁, place, temporary, -, hstored⟩ := save_ok hsave
  have hfaithful : r.toJson.IsFaithful :=
    Resource.isFaithful_toJson hr.tidy hr.texts hstored.writable
  have hdepth : r.toJson.depth ≤ Json.maxOpen := Nat.le_trans r.depth_toJson (by decide)
  refine ⟨hstored.load hr, ?_, Resource.ofData_toJson hr.tidy⟩
  exact Json.decodeStored_encodeIndented hfaithful hdepth

/-- A resource with something in each of its parts, as it is given: the mappings in a list, the
truth value as a word, the whole numbers as numerals. -/
def givenData : Data :=
  .dict [(.str "name", .str "a b"),
    (.str "spec", .dict [
      (.str "payload", .dict [
        (.str "base_url", .str "u"), (.str "body", .str "\x7b\"k\": 1\x7d\n")]),
      (.str "mappings", .list [
        .dict [(.str "method", .str "PUT"), (.str "body", .str "x"),
          (.str "headers", .dict [(.str "B", .list [.str "2", .str "1"]), (.str "A", .list [])])],
        .dict [(.str "method", .str "GET")]]),
      (.str "headers", .dict [(.str "C", .list [.str "é"])]),
      (.str "insecure_skip_tls_verify", .str "yes")]),
    (.str "status", .dict [
      (.str "request_details", .dict [(.str "method", .str "PUT"), (.str "url", .str "u")]),
      (.str "response", .dict [(.str "status_code", .str "-5"), (.str "body", .str "😀\t\\")]),
      (.str "failed", .str "12345678901234567890"), (.str "error", .str "e")])]

/-- The resource that the checks make of it. -/
def given : Resource where
  name := "a b"
  spec := ⟨⟨"u", "\x7b\"k\": 1\x7d\n"⟩,
    [(.put, ⟨.put, [], "x", [("B", ["2", "1"]), ("A", [])]⟩), (.get, ⟨.get, [], [], []⟩)],
    [("C", ["é"])], true⟩
  status := ⟨⟨"PUT", "u", [], []⟩, ⟨-5, "😀\t\\", []⟩, 12345678901234567890, "e"⟩

theorem ofData_given : Resource.ofData givenData = .ok given := by
  have hmade : (Resource.ofData givenData).toOption = some given := by decide +kernel
  cases hchecked : Resource.ofData givenData with
  | error problems =>
    rw [hchecked] at hmade
    cases hmade
  | ok r =>
    rw [hchecked] at hmade
    cases hmade
    rfl

/-- The resource is saved and loaded. -/
theorem load_saved_given :
    Resource.ofData givenData = .ok given ∧ (∀ t ∈ given.texts, t.NoSurrogates) ∧
      stateStore.save .sound given ⟨[], []⟩ = (.ok (), diskWith given) ∧
      stateStore.load given.name (diskWith given) = .ok (some given) := by
  have hsaved : stateStore.save .sound given ⟨[], []⟩ = (.ok (), diskWith given) := by
    decide +kernel
  have htexts : ∀ t ∈ given.texts, t.NoSurrogates := by decide
  obtain ⟨hload, -, -⟩ :=
    load_of_save stateStore .sound _ _ givenData given ofData_given htexts hsaved
  exact ⟨ofData_given, htexts, hsaved, hload⟩

end DesiredState.FileStore
