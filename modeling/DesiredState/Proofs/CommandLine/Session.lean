import DesiredState.Proofs.Lifecycle.Agreement
import DesiredState.Proofs.Lifecycle.Tables
import DesiredState.Proofs.Storage.FileStore

/-!
# Sessions

Commands that are carried out one after the other and share the directory of a store, which nobody
else touches. The directory holds whole resources, but only their statuses are looked at again. So
a session comes to the same as a machine that remembers one status for each name and nothing else.

* `Turn`: a command with the replies and the disk that it meets.
* `Session`: turns that share a directory.
* `Ledger.turn`, `Ledger.run`: the machine.
* `Session.told_eq`: **a session tells what the machine tells.**
-/

namespace DesiredState

open FileStore (lastAlike safeName fileName StartsEmpty Holds Saved Storable)

/-! ### What a store remembers -/

namespace FileStore

variable {store : FileStore} {d d' : Disk} {rs saves : List Resource} {n name : Text}

/-- Nothing happened to the directory of a store: where it is there it stays, with what is in it,
and where it can be made empty it still can. -/
structure Untouched (store : FileStore) (d d' : Disk) : Prop where
  stays : ∀ base, d.locate store.dir = .ok base → d.at? base = some .directory →
    d'.locate store.dir = .ok base ∧ d'.at? base = some .directory ∧
      ∀ name, d'.at? (base ++ [name]) = d.at? (base ++ [name])
  empty : store.StartsEmpty d → store.StartsEmpty d'

theorem Untouched.refl (store : FileStore) (d : Disk) : store.Untouched d d :=
  ⟨fun _ hl hd => ⟨hl, hd, fun _ => rfl⟩, id⟩

/-- A disk remembers the resources that were saved: there are none yet, or the directory holds the
last of them. -/
def Remembers (store : FileStore) (rs : List Resource) (d : Disk) : Prop :=
  (rs = [] ∧ store.StartsEmpty d) ∨ ∃ base, Holds store rs d base

theorem Remembers.untouched (h : store.Remembers rs d) (hd : store.Untouched d d') :
    store.Remembers rs d' := by
  rcases h with ⟨rfl, hstart⟩ | ⟨base, hh⟩
  · exact .inl ⟨rfl, hd.empty hstart⟩
  · obtain ⟨hl, hdirectory, hfiles⟩ := hd.stays base hh.located hh.directory
    exact .inr ⟨base, hl, hdirectory, hh.writable, fun n hn => (hfiles _).trans (hh.files n hn)⟩

theorem Holds.saved {base : Place} (hh : Holds store rs d base) (hs : Saved store d saves d') :
    Holds store (rs ++ saves) d' base := by
  induction hs with
  | nil =>
    rw [List.append_nil]
    exact hh
  | @save saves r d₁ d₂ device _ h ih =>
    have hthere : d₁.isDirectory store.dir = true :=
      Disk.isDirectory_iff.2 ⟨base, ih.located, ih.directory⟩
    rw [← List.append_assoc]
    exact ih.save (Disk.makeDirectories_eq_self hthere) h

theorem Remembers.saved (h : store.Remembers rs d) (hs : Saved store d saves d') :
    store.Remembers (rs ++ saves) d' := by
  rcases h with ⟨rfl, hstart⟩ | ⟨base, hh⟩
  · rcases hs.holds hstart with ⟨rfl, rfl⟩ | hh
    · exact .inl ⟨rfl, hstart⟩
    · exact .inr hh
  · exact .inr ⟨base, hh.saved hs⟩

theorem Remembers.load (h : store.Remembers rs d) (hr : ∀ r ∈ rs, Storable r)
    (hn : Disk.isTooLong (fileName n) = false) : store.load n d = .ok (lastAlike n rs) := by
  rcases h with ⟨rfl, hstart⟩ | ⟨base, hh⟩
  · exact hstart.load hn
  · exact hh.load (fun r hlast => hr r (mem_of_lastAlike hlast)) hn

/-- Resources of one name that were saved last are all that counts for this name, and do not count
for names with other files. -/
theorem lastAlike_append (h : ∀ s ∈ saves, s.name = name) :
    lastAlike n (rs ++ saves) =
      if safeName name = safeName n then saves.getLast?.or (lastAlike n rs)
      else lastAlike n rs := by
  unfold lastAlike
  rw [List.reverse_append, List.find?_append]
  split
  · next hsame =>
    congr 1
    rw [← List.head?_reverse]
    have hreverse : ∀ s ∈ saves.reverse, s.name = name := fun s hs => h s (List.mem_reverse.1 hs)
    generalize saves.reverse = latest at hreverse ⊢
    cases latest with
    | nil => rfl
    | cons s latest =>
      have hs := hreverse s List.mem_cons_self
      simp [hs, hsame]
  · next hdiff =>
    have hnone : saves.reverse.find? (fun r => safeName r.name = safeName n) = none := by
      rw [List.find?_eq_none]
      intro s hs
      rw [h s (List.mem_reverse.1 hs)]
      simpa using hdiff
    rw [hnone, Option.none_or]

end FileStore

/-! ### Turns -/

/-- A command that is carried out: with the replies that it gets and the disk that it finds. -/
structure Turn where
  execution : Execution
  arrivals : List Arrival
  disk : Disk

/-- What is told of a command: its summary or its fault, and the requests that it sent. -/
abbrev Told := Except ExecutionFault Summary × List Sent

namespace Turn

/-- The world in which the command begins. -/
def world (c : Turn) : World Disk := ⟨c.arrivals, .absent, [], c.disk, [], []⟩

/-- The command carried out. -/
def done (c : Turn) : Except ExecutionFault Summary × World Disk := c.execution.run c.world

/-- What the program tells. -/
def told (c : Turn) : Told := (c.done.1, c.done.2.sent)

/-- The resource that the file declares, now. -/
def declared (c : Turn) : Except DeclarationFault Resource :=
  Resource.declaredIn c.execution.environment c.disk c.execution.resourceFile

theorem done_of_resource_error {c : Turn} {f : ExecutionFault}
    (h : c.execution.resource c.disk = .error f) : c.done = (.error f, c.world) := by
  unfold done Execution.run
  rw [show c.execution.resource c.world.store = .error f from h]

/-- Without a declaration there is nothing to work on. -/
theorem resource_of_undeclared {c : Turn} {e : DeclarationFault} (h : c.declared = .error e) :
    c.execution.resource c.disk = .error (.declaration e) := by
  unfold Execution.resource
  rw [show Resource.declaredIn c.execution.environment c.disk c.execution.resourceFile = .error e
    from h]

theorem done_of_undeclared {c : Turn} {e : DeclarationFault} (h : c.declared = .error e) :
    c.done = (.error (.declaration e), c.world) :=
  done_of_resource_error (resource_of_undeclared h)

/-- The name of the declared resource fits into the name of a file. -/
def HasShortName (c : Turn) : Prop :=
  ∀ r, c.declared = .ok r → Disk.isTooLong (fileName r.name) = false

/-- No save is refused, and no text that is saved has a pair of surrogates. -/
structure SavesAll (c : Turn) : Prop where
  accepted : ∀ name cause, c.done.1 ≠ .error (.verb (.statusNotSaved name cause))
  texts : ∀ s ∈ c.done.2.saved, ∀ t ∈ s.texts, t.IsUnpaired

/-- The names that two turns declare are the same, or they stand for different files. -/
def NamesApart (c c' : Turn) : Prop :=
  ∀ r r', c.declared = .ok r → c'.declared = .ok r' →
    r.name = r'.name ∨ safeName r.name ≠ safeName r'.name

end Turn

/-- Turns one after the other that share the directory of a store. Everything else on the disk may
change between them. -/
inductive Session (store : FileStore) : Disk → List Turn → Disk → Prop
  | nil (d : Disk) : Session store d [] d
  | turn {d d' : Disk} {c : Turn} {cs : List Turn} (hstore : c.execution.store = store)
      (hdisk : store.Untouched d c.disk) (hs : Session store c.done.2.store cs d') :
      Session store d (c :: cs) d'

/-! ### The machine -/

/-- The status that is remembered for a name, if there is one. -/
abbrev Ledger := Text → Option Status

namespace Ledger

/-- Nothing is remembered. -/
def empty : Ledger := fun _ => none

/-- The ledger with the status of the last of some resources for a name. -/
def noting (l : Ledger) (name : Text) (saves : List Resource) : Ledger := fun n =>
  if n = name then (saves.getLast?.map Resource.status).or (l n) else l n

/-- The verbs of a command with a store that keeps nothing. -/
def manager (x : Execution) : Manager Nat := ⟨x.manager.observer, .refusing []⟩

/-- What the machine tells of a turn: the verb works on the declared resource with the status that
is remembered for its name, or else with its own. -/
def turn (l : Ledger) (c : Turn) : Told × Ledger :=
  match c.declared with
  | .error e => ((.error (.declaration e), []), l)
  | .ok r =>
    let (result, w) := c.execution.command.carryOut (manager c.execution)
      (r.withStatus ((l r.name).getD r.status)) ⟨c.arrivals, .absent, [], 0, [], []⟩
    ((result.mapError .verb, w.sent), l.noting r.name w.saved)

/-- What the machine tells of turns. -/
def run (l : Ledger) : List Turn → List Told × Ledger
  | [] => ([], l)
  | c :: cs =>
    let (told, l) := l.turn c
    let (rest, l) := run l cs
    (told :: rest, l)

end Ledger

/-! ### Both tell the same -/

/-- Worlds that differ in their stores at most, of which the first has what was saved on its
disk. -/
structure Saves (store : FileStore) (d : Disk) (w : World Disk) (v : World Nat) : Prop where
  alike : w.Alike v
  saved : Saved store d w.saved w.store

theorem agrees_saves (x : Execution) (d : Disk) :
    x.manager.Agrees (Ledger.manager x) (Saves x.store d) where
  observer := rfl
  client :=
    { debug := fun h logger message => ⟨h.alike.debug logger message, h.saved⟩
      send := fun {w v} h q skip => by
        obtain ⟨hsame, halike⟩ := h.alike.send x.manager.observer.client q skip
        obtain ⟨hstore, hsaved⟩ := x.manager.observer.client.send_store q skip w
        exact ⟨hsame, halike, by rw [hstore, hsaved]; exact h.saved⟩ }
  record {w v} h r exchange transportError := by
    unfold Store.record
    generalize r.withStatus (r.status.after exchange transportError) = r'
    unfold Store.keep
    cases hstored : x.store.save .sound r' w.store with
    | mk result d' =>
      have hsave : x.manager.store.save r' w.store = (result.mapError (·.message), d') := by
        unfold Execution.manager FileStore.toStore
        dsimp only
        rw [hstored]
        cases result <;> rfl
      rw [hsave]
      rcases result with e | _
      · exact .inl ⟨_, _, rfl⟩
      · refine .inr ⟨rfl, ?_, h.saved.save .sound hstored⟩
        exact ⟨h.alike.arrivals, h.alike.event, h.alike.sent, congrArg (· ++ [r']) h.alike.saved,
          congrArg (· ++ [_]) h.alike.log⟩

theorem Execution.run_of_resource {x : Execution} {w : World Disk} {r : Resource}
    (h : x.resource w.store = .ok r) :
    x.run w = ((x.command.carryOut x.manager r w).1.mapError .verb,
      (x.command.carryOut x.manager r w).2) := by
  unfold run
  rw [h]
  dsimp only
  generalize x.command.carryOut x.manager r w = done
  obtain ⟨result, w'⟩ := done
  cases result <;> rfl

/-- Where no save is refused, a command that has a resource to work on comes to the same with a
store that keeps nothing. -/
theorem Turn.done_of_resource {c : Turn} {r : Resource}
    (hr : c.execution.resource c.disk = .ok r)
    (haccepted : ∀ name cause, c.done.1 ≠ .error (.verb (.statusNotSaved name cause)))
    {machine : Except Failure Summary × World Nat}
    (hmachine : c.execution.command.carryOut (Ledger.manager c.execution) r
      ⟨c.arrivals, .absent, [], 0, [], []⟩ = machine) :
    c.done.1 = machine.1.mapError .verb ∧ Saves c.execution.store c.disk c.done.2 machine.2 := by
  have hstart : Saves c.execution.store c.disk c.world ⟨c.arrivals, .absent, [], 0, [], []⟩ :=
    ⟨⟨rfl, rfl, rfl, rfl, rfl⟩, .nil⟩
  have hagrees := (agrees_saves c.execution c.disk).carryOut c.execution.command r hstart
  rw [hmachine] at hagrees
  have hdone : c.done = _ := Execution.run_of_resource hr
  rw [hdone] at haccepted ⊢
  dsimp only at haccepted ⊢
  rcases hagrees with ⟨name, cause, hrefused⟩ | ⟨hsame, hrelated⟩
  · refine absurd ?_ (haccepted name cause)
    rw [hrefused]
    rfl
  · exact ⟨congrArg (Except.mapError ExecutionFault.verb) hsame, hrelated⟩

/-- What a command saves has the declaration that it was given, and is tidy. -/
theorem Command.saved_carryOut {σ : Type} (c : Command) (m : Manager σ) {r : Resource}
    (w : World σ) (hr : r.IsTidy) :
    ∃ saves, (c.carryOut m r w).2.saved = w.saved ++ saves ∧ ∀ s ∈ saves, s.IsRecordOf r := by
  unfold carryOut
  cases c with
  | observe =>
    have hsaved := m.saved_observe w hr
    dsimp only
    generalize m.observe r w = seen at hsaved ⊢
    obtain ⟨result, w'⟩ := seen
    cases result <;> exact hsaved
  | reconcile | delete =>
    dsimp only
    generalize decide (_ = Command.delete) = deleting
    have hsaved := m.saved_reconcile w hr deleting
    generalize m.reconcile r deleting w = done at hsaved ⊢
    obtain ⟨result, w'⟩ := done
    cases result <;> exact hsaved

theorem Resource.isTidy_of_declaredIn {env : Environment} {d : Disk} {p : FilePath} {r : Resource}
    (h : Resource.declaredIn env d p = .ok r) : r.IsTidy := by
  unfold Resource.declaredIn at h
  split at h
  · cases h
  split at h
  · cases h
  · split at h
    · cases h
    · next hdata =>
      cases h
      exact Resource.isTidy_of_ofData hdata
  · cases h

/-- A tidy resource with the status of another tidy one. -/
theorem Resource.IsTidy.withStatus {r s : Resource} (hr : r.IsTidy) (hs : s.IsTidy) :
    (r.withStatus s.status).IsTidy :=
  ⟨hr.methods, hr.declared, hr.mappingHeaders, hr.headers, hs.requestHeaders, hs.responseHeaders⟩

/-- The ledger knows the statuses that the store remembers for names of some kind. -/
structure Ledger.Knows (l : Ledger) (store : FileStore) (isName : Text → Prop)
    (rs : List Resource) (d : Disk) : Prop where
  remembers : store.Remembers rs d
  storable : ∀ r ∈ rs, Storable r
  statuses : ∀ n, isName n → l n = (lastAlike n rs).map Resource.status

namespace Ledger.Knows

variable {l : Ledger} {store : FileStore} {isName : Text → Prop} {rs : List Resource} {d : Disk}
  {c : Turn}

/-- The program works on the same resource as the machine. -/
theorem resource_eq (h : l.Knows c.execution.store isName rs c.disk) (hc : c.HasShortName)
    {r : Resource} (hr : c.declared = .ok r) (hname : isName r.name) :
    c.execution.resource c.disk = .ok (r.withStatus ((l r.name).getD r.status)) := by
  have hload := h.remembers.load h.storable (hc r hr)
  unfold Execution.resource
  rw [show Resource.declaredIn c.execution.environment c.disk c.execution.resourceFile = .ok r
    from hr, h.statuses r.name hname]
  dsimp only
  rw [hload]
  cases lastAlike r.name rs <;> rfl

theorem isTidy_start (h : l.Knows store isName rs d) {r : Resource} (hr : r.IsTidy)
    (hname : isName r.name) : (r.withStatus ((l r.name).getD r.status)).IsTidy := by
  rw [h.statuses r.name hname]
  cases hlast : lastAlike r.name rs with
  | none => exact hr
  | some s => exact hr.withStatus (h.storable s (FileStore.mem_of_lastAlike hlast)).tidy

/-- What is saved for one name changes the status of this name only. -/
theorem noting (h : l.Knows store isName rs d) {d' : Disk} {saves : List Resource} {name : Text}
    (hd : store.Remembers (rs ++ saves) d') (hsaves : ∀ s ∈ saves, Storable s)
    (hnames : ∀ s ∈ saves, s.name = name)
    (hdistinct : ∀ n, isName n → safeName name = safeName n → name = n) :
    (l.noting name saves).Knows store isName (rs ++ saves) d' where
  remembers := hd
  storable := List.forall_mem_append.2 ⟨h.storable, hsaves⟩
  statuses n hn := by
    rw [FileStore.lastAlike_append hnames]
    unfold Ledger.noting
    by_cases hsame : n = name
    · rw [if_pos hsame, if_pos (hsame ▸ rfl), h.statuses n hn, Option.map_or]
    · rw [if_neg hsame, if_neg fun hsafe => hsame (hdistinct n hn hsafe).symm, h.statuses n hn]

/-- **One turn**: the program tells what the machine tells, and the ledger still knows what the
store remembers. -/
theorem turn (h : l.Knows c.execution.store isName rs c.disk) (hshort : c.HasShortName)
    (hc : c.SavesAll) (hname : ∀ r, c.declared = .ok r → isName r.name)
    (hdistinct : ∀ n n', isName n → isName n' → safeName n = safeName n' → n = n') :
    c.told = (l.turn c).1 ∧
      ∃ saves, (l.turn c).2.Knows c.execution.store isName (rs ++ saves) c.done.2.store := by
  unfold Ledger.turn
  cases hr : c.declared with
  | error e =>
    unfold Turn.told
    rw [Turn.done_of_undeclared hr]
    refine ⟨rfl, [], ?_⟩
    rw [List.append_nil]
    exact h
  | ok r =>
    have hresource := h.resource_eq hshort hr (hname r hr)
    have htidy := h.isTidy_start (Resource.isTidy_of_declaredIn hr) (hname r hr)
    dsimp only
    generalize hmachine : c.execution.command.carryOut (Ledger.manager c.execution)
      (r.withStatus ((l r.name).getD r.status)) ⟨c.arrivals, .absent, [], 0, [], []⟩ = machine
    obtain ⟨hresult, hrelated⟩ := Turn.done_of_resource hresource hc.accepted hmachine
    refine ⟨Prod.ext hresult hrelated.alike.sent, machine.2.saved, ?_⟩
    -- what was saved has the name of the declaration and can be read again
    obtain ⟨saves, hsaved, hrecords⟩ :=
      c.execution.command.saved_carryOut c.execution.manager c.world htidy
    have hdone : c.done = _ := Execution.run_of_resource hresource
    have hsaves : c.done.2.saved = saves := by
      rw [hdone]
      exact hsaved
    have htexts := hc.texts
    rw [← hrelated.alike.saved]
    rw [← hsaves] at hrecords
    exact h.noting (h.remembers.saved hrelated.saved)
      (fun s hs => ⟨(hrecords s hs).2, htexts s hs⟩) (fun s hs => (hrecords s hs).1.1)
      fun n hn => hdistinct r.name n (hname r hr) hn

end Ledger.Knows

/-- By induction on the turns: each begins with what the one before it has left. -/
theorem Session.run {store : FileStore} {d d' : Disk} {cs : List Turn} {l : Ledger}
    {isName : Text → Prop} {rs : List Resource} (hs : Session store d cs d')
    (h : l.Knows store isName rs d) (hshort : ∀ c ∈ cs, c.HasShortName)
    (hsaves : ∀ c ∈ cs, c.SavesAll) (hname : ∀ c ∈ cs, ∀ r, c.declared = .ok r → isName r.name)
    (hdistinct : ∀ n n', isName n → isName n' → safeName n = safeName n' → n = n') :
    cs.map Turn.told = (l.run cs).1 := by
  induction hs generalizing l rs with
  | nil => rfl
  | @turn d d' c cs hstore hdisk _ ih =>
    subst hstore
    obtain ⟨hcshort, hcsshort⟩ := List.forall_mem_cons.1 hshort
    obtain ⟨hc, hcs⟩ := List.forall_mem_cons.1 hsaves
    obtain ⟨hcname, hcsname⟩ := List.forall_mem_cons.1 hname
    have hfound : l.Knows c.execution.store isName rs c.disk :=
      ⟨h.remembers.untouched hdisk, h.storable, h.statuses⟩
    obtain ⟨htold, saves, hnext⟩ := hfound.turn hcshort hc hcname hdistinct
    have hrest := ih hnext hcsshort hcs hcsname
    rw [List.map_cons, htold, hrest]
    rfl

/-- **A session tells what the machine tells**: its summaries and faults, and its requests. So
nothing but the status of a name goes from one turn to the next, whatever was stored with it. -/
theorem Session.told_eq {store : FileStore} {d d' : Disk} {cs : List Turn}
    (hs : Session store d cs d') (hstart : store.StartsEmpty d)
    (hnames : ∀ c ∈ cs, ∀ c' ∈ cs, c.NamesApart c') (hshort : ∀ c ∈ cs, c.HasShortName)
    (hsaves : ∀ c ∈ cs, c.SavesAll) :
    cs.map Turn.told = (Ledger.empty.run cs).1 := by
  have hknows : Ledger.empty.Knows store (fun n => ∃ c ∈ cs, ∃ r, c.declared = .ok r ∧ r.name = n)
      [] d := ⟨.inl ⟨rfl, hstart⟩, List.forall_mem_nil _, fun _ _ => rfl⟩
  refine hs.run hknows hshort hsaves (fun c hc r hr => ⟨c, hc, r, hr, rfl⟩) ?_
  rintro _ _ ⟨c, hc, r, hr, rfl⟩ ⟨c', hc', r', hr', rfl⟩ hsafe
  exact (hnames c hc c' hc' r r' hr hr').resolve_right (not_not_intro hsafe)

namespace Session

open FileStore (stateStore)

/-- The declaration of a page that can be read, created and overwritten. -/
def pageFile : Text :=
  "name: page\nspec:\n  payload: \x7bbase_url: u\x7d\n" ++
    "  mappings: [\x7bmethod: GET\x7d, \x7bmethod: POST\x7d, \x7bmethod: PUT, body: x\x7d]\n"

/-- A declaration whose name comes from a variable. -/
def namedFile : Text := "name: $\x7bNAME\x7d\nspec: \x7bpayload: \x7bbase_url: u\x7d\x7d\n"

/-- Both declarations, and no directory for a store. -/
def files : Disk := ⟨[(["page.yaml"], .file pageFile), (["named.yaml"], .file namedFile)], []⟩

/-- A command for one of the files. -/
def execution (c : Command) (file : Text) (env : Environment) : Execution :=
  ⟨c, ⟨[], [file]⟩, { Settings.default with stateDir := "state" }, env⟩

/-- The page is created. -/
def creation : Turn :=
  ⟨execution .reconcile "page.yaml" [], [⟨.response 201 "x" [], false⟩], files⟩

/-- Then the page is observed. -/
def observation : Turn :=
  ⟨execution .observe "page.yaml" [], [⟨.response 200 "x" [], false⟩], creation.done.2.store⟩

theorem startsEmpty_files : stateStore.StartsEmpty files := by
  refine ⟨files.put ["state"] .directory, ["state"], by decide +kernel, by decide +kernel,
    fun name => ?_⟩
  have hplace : [("state" : Text)] ++ [name] ≠ [] := List.append_ne_nil_of_right_ne_nil _ nofun
  rw [Disk.at?_of_ne_nil hplace, Entries.find?_eq_none_iff]
  intro hmem
  have hlength : ∀ place ∈ Entries.keys (files.put ["state"] .directory).nodes,
      place.length = 1 := by decide +kernel
  cases hlength _ hmem

theorem savesAll_of_isOk {c : Turn} (hok : c.done.1.isOk = true)
    (htexts : ∀ s ∈ c.done.2.saved, ∀ t ∈ s.texts, t.IsUnpaired) : c.SavesAll where
  accepted name cause h := by
    rw [h] at hok
    cases hok
  texts := htexts

/-- The one name that a turn declares. -/
theorem name_eq {c : Turn} {name : Text}
    (hname : c.declared.toOption.map Resource.name = some name) {r : Resource}
    (hr : c.declared = .ok r) : r.name = name := by
  rw [hr] at hname
  exact Option.some.inj hname

set_option maxRecDepth 10000 in
theorem creation_checked :
    creation.declared.toOption.map Resource.name = some "page" ∧ creation.done.1.isOk = true ∧
      ∀ s ∈ creation.done.2.saved, ∀ t ∈ s.texts, t.IsUnpaired := by
  decide +kernel

set_option maxRecDepth 10000 in
theorem observation_checked :
    observation.declared.toOption.map Resource.name = some "page" ∧
      observation.done.1.isOk = true ∧
      ∀ s ∈ observation.done.2.saved, ∀ t ∈ s.texts, t.IsUnpaired := by
  decide +kernel

/-- The page is created, and another turn follows on the disk that this leaves. -/
theorem after_creation {c : Turn} (hstore : c.execution.store = stateStore)
    (hdisk : c.disk = creation.done.2.store) :
    Session stateStore files [creation, c] c.done.2.store := by
  have hfirst : stateStore.Untouched files creation.disk := .refl stateStore files
  have hnext : stateStore.Untouched creation.done.2.store c.disk := hdisk ▸ .refl stateStore _
  exact .turn (by decide +kernel) hfirst (.turn hstore hnext (.nil _))

/-- The page is created, and found by the next command. -/
theorem page_told :
    Session stateStore files [creation, observation] observation.done.2.store ∧
      stateStore.StartsEmpty files ∧
      (∀ c ∈ [creation, observation], ∀ c' ∈ [creation, observation], c.NamesApart c') ∧
      (∀ c ∈ [creation, observation], c.HasShortName ∧ c.SavesAll) ∧
      [creation, observation].map Turn.told = (Ledger.empty.run [creation, observation]).1 := by
  obtain ⟨hcreated, hcreation, htexts⟩ := creation_checked
  obtain ⟨hobserved, hobservation, htexts'⟩ := observation_checked
  have hs := after_creation (c := observation) (by decide +kernel) (by rw [observation])
  have hname : ∀ c ∈ [creation, observation], ∀ r, c.declared = .ok r → r.name = "page" := by
    simp only [List.forall_mem_cons]
    exact ⟨fun r hr => name_eq hcreated hr, fun r hr => name_eq hobserved hr,
      List.forall_mem_nil _⟩
  have hsaves : ∀ c ∈ [creation, observation], c.SavesAll := by
    simp only [List.forall_mem_cons]
    exact ⟨savesAll_of_isOk hcreation htexts, savesAll_of_isOk hobservation htexts',
      List.forall_mem_nil _⟩
  have hnames : ∀ c ∈ [creation, observation], ∀ c' ∈ [creation, observation],
      c.NamesApart c' := fun c hc c' hc' r r' hr hr' =>
    .inl ((hname c hc r hr).trans (hname c' hc' r' hr').symm)
  have hshort : ∀ c ∈ [creation, observation], c.HasShortName := by
    intro c hc r hr
    rw [hname c hc r hr]
    decide
  exact ⟨hs, startsEmpty_files, hnames, fun c hc => ⟨hshort c hc, hsaves c hc⟩,
    hs.told_eq startsEmpty_files hnames hshort hsaves⟩

/-! ### A name that is too long -/

/-- A name whose file would have more bytes than a name may have. -/
def longName : Text := List.replicate 242 'x'

/-- After the page is created, a resource with this name is observed. -/
def longObservation : Turn :=
  ⟨execution .observe "named.yaml" [("NAME", longName)], [], creation.done.2.store⟩

/-- The program could not look for the stored resource. -/
def isUnloaded (c : Turn) : Bool :=
  match c.done.1 with
  | .error (.load _) => true
  | _ => false

theorem savesAll_of_isUnloaded {c : Turn} (h : isUnloaded c = true) (hsaved : c.done.2.saved = []) :
    c.SavesAll where
  accepted name cause hrefused := by
    rw [isUnloaded, hrefused] at h
    cases h
  texts s hs := by
    rw [hsaved] at hs
    cases hs

set_option maxRecDepth 10000 in
theorem longObservation_checked :
    longObservation.declared.toOption.map Resource.name = some longName ∧
      isUnloaded longObservation = true ∧ longObservation.done.2.saved = [] := by
  decide +kernel

set_option maxRecDepth 10000 in
theorem machine_checked :
    (Ledger.empty.run [creation, longObservation]).1.map (·.1.isOk) = [true, true] := by
  decide +kernel

/-- **A name may be too long to look for its file.** No save is refused, but the program fails
where the machine, which has no status for the name, finds that there is no object. -/
theorem long_name_fails :
    Session stateStore files [creation, longObservation] longObservation.done.2.store ∧
      stateStore.StartsEmpty files ∧
      (∀ c ∈ [creation, longObservation], ∀ c' ∈ [creation, longObservation], c.NamesApart c') ∧
      (∀ c ∈ [creation, longObservation], c.SavesAll) ∧
      [creation, longObservation].map Turn.told ≠
        (Ledger.empty.run [creation, longObservation]).1 := by
  obtain ⟨hcreated, hcreation, htexts⟩ := creation_checked
  obtain ⟨hnamed, hunloaded, hsaved⟩ := longObservation_checked
  have hs := after_creation (c := longObservation) (by decide +kernel) (by rw [longObservation])
  refine ⟨hs, startsEmpty_files, ?_, ?_, fun htold => ?_⟩
  · have hdistinct : safeName "page" ≠ safeName longName := by decide
    simp only [List.forall_mem_cons]
    refine ⟨⟨fun r r' hr hr' => .inl ?_, fun r r' hr hr' => .inr ?_, List.forall_mem_nil _⟩,
      ⟨fun r r' hr hr' => .inr ?_, fun r r' hr hr' => .inl ?_, List.forall_mem_nil _⟩,
      List.forall_mem_nil _⟩
    · rw [name_eq hcreated hr, name_eq hcreated hr']
    · rw [name_eq hcreated hr, name_eq hnamed hr']
      exact hdistinct
    · rw [name_eq hnamed hr, name_eq hcreated hr']
      exact hdistinct.symm
    · rw [name_eq hnamed hr, name_eq hnamed hr']
  · simp only [List.forall_mem_cons]
    exact ⟨savesAll_of_isOk hcreation htexts, savesAll_of_isUnloaded hunloaded hsaved,
      List.forall_mem_nil _⟩
  · -- the machine comes to a summary both times
    have hmachine := machine_checked
    rw [← htold] at hmachine
    have hok : longObservation.done.1.isOk = true := by
      simpa [Turn.told] using (List.cons.inj (List.cons.inj hmachine).2).1
    rw [isUnloaded] at hunloaded
    split at hunloaded
    · next h =>
      rw [h] at hok
      cases hok
    · cases hunloaded

end Session

end DesiredState
