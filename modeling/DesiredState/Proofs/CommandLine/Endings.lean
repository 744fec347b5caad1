import DesiredState.Proofs.CommandLine.Session
import DesiredState.Proofs.CommandLine.Summaries
import DesiredState.Proofs.Log.Setup
import DesiredState.Proofs.Settings.Loading

/-!
# How runs end

A run is to answer: with a summary, or with a fault that it reports. It does, whatever the transport
replies, unless something goes wrong in one of a few places that no report covers. They are the
loading of the configuration, the setting up of the log, the texts of the files that are read, and
the printing of a summary.

* `Turn.IsBroken`: a command that ends without a report.
* `Run.Answers`: a run that answers.
* `Run.Escapes`: the places that no report covers.
* `Run.answers_iff`: **a run answers exactly if nothing goes wrong in those places.**
* `Run.number_key_escapes`: a key of the configuration that is a number is enough.
-/

namespace DesiredState

/-! ### Files -/

theorem Disk.isThere_of_readText {d : Disk} {p : FilePath} {t : Text} (h : d.readText p = .ok t) :
    d.isThere p = .ok true := by
  unfold readText read at h
  unfold isThere
  cases hl : d.locate p with
  | error cause =>
    rw [hl] at h
    cases h
  | ok place =>
    rw [hl] at h
    dsimp only at h ⊢
    cases hat : d.at? place with
    | none =>
      rw [hat] at h
      cases h
    | some node => rfl

/-- A stored file escapes exactly if reading it would keep too many containers open. -/
theorem FileStore.load_escapes_iff {store : FileStore} {name : Text} {d : Disk} :
    (∃ f, store.load name d = .error f ∧ f.isReported = false) ↔
      ∃ t, d.readText (store.path name) = .ok t ∧ Json.decodeStored t = .error .tooManyOpen := by
  constructor
  · -- of the faults on the way to the data, only the one of the nesting is not reported
    rintro ⟨f, hload, hf⟩
    unfold load at hload
    dsimp only at hload
    split at hload
    · cases hload
      cases hf
    · cases hload
    split at hload
    · cases hload
      cases hf
    next t htext =>
    split at hload
    · next e he =>
      cases hload
      cases e <;> first | exact ⟨t, htext, he⟩ | cases hf
    · split at hload
      · cases hload
        cases hf
      · cases hload
  · rintro ⟨t, htext, hdecode⟩
    refine ⟨.json t .tooManyOpen, ?_, rfl⟩
    unfold load
    dsimp only
    -- the store asks first whether there is a file, and one that can be read is there
    rw [Disk.isThere_of_readText htext, htext]
    dsimp only
    rw [hdecode]

theorem FileStore.isWritable_of_toStore {store : FileStore} {device : Device} {r : Resource}
    {d d' : Disk} (h : (store.toStore device).save r d = (.ok (), d')) :
    Json.isWritable r.toJson = true := by
  unfold toStore at h
  dsimp only at h
  split at h
  · next hsave =>
    obtain ⟨d₁, place, temporary, -, hstored⟩ := save_ok hsave
    exact hstored.writable
  · cases h

theorem Resource.declaredIn_eq_content_iff {env : Environment} {d : Disk} {p : FilePath}
    {f : ContentFault} : declaredIn env d p = .error (.content f) ↔ d.readData p = .error f := by
  unfold declaredIn
  cases d.readData p with
  | error e => simp
  | ok data =>
    dsimp only
    split
    · simp
    · split <;> simp
    · simp

/-! ### Commands -/

namespace Turn

variable {c : Turn} {r : Resource}

/-- Observing a resource finds nothing: nothing is recorded, or the GET request is answered so. -/
def FindsNothing (c : Turn) (r : Resource) : Prop :=
  r.NothingRecorded ∨ ∃ get response, r.resolve .get = .ok get ∧
    c.world.answer (get.toRequest .get) = .ok response ∧ response.status = StatusCode.notFound

/-- A command that ends without a report: there is no room for the text of its resource file or of
the stored file, or its summary has a number that cannot be written out. Such a number was in the
status that the command began with, and it was not asked to make the object that it did not find. -/
inductive IsBroken (c : Turn) : Prop
  | declaration {e : ContentFault} (h : c.disk.readData c.execution.resourceFile = .error e)
      (he : e.isReported = false)
  | stored {r : Resource} {t : Text} (hr : c.declared = .ok r)
      (ht : c.disk.readText (c.execution.store.path r.name) = .ok t)
      (h : Json.decodeStored t = .error .tooManyOpen)
  | number {r : Resource} (hr : c.execution.resource c.disk = .ok r)
      (hcommand : c.execution.command ≠ .reconcile) (hnothing : c.FindsNothing r)
      (h : ¬ r.status.IsWritable)

/-- The command fails without a report, or comes to a summary that cannot be printed. -/
def Escapes (c : Turn) : Prop :=
  (∃ f, c.done.1 = .error f ∧ f.isReported = false) ∨
    ∃ s, c.done.1 = .ok s ∧ Json.isWritable s.toJson = false

theorem findsNothing_iff :
    c.FindsNothing r ↔
      r.decision c.execution.manager.observer.mode c.world.answer = .error .objectNotFound :=
  (Resource.decision_eq_objectNotFound_iff c.world.answer_ne_objectNotFound).symm

theorem done_eq_ok_iff (hr : c.execution.resource c.disk = .ok r) {s : Summary} :
    c.done.1 = .ok s ↔
      (c.execution.command.carryOut c.execution.manager r c.world).1 = .ok s := by
  have hdone : c.done = _ := Execution.run_of_resource hr
  rw [hdone]
  dsimp only
  generalize (c.execution.command.carryOut c.execution.manager r c.world).1 = result
  cases result with
  | ok s' => exact ⟨fun h => congrArg Except.ok (Except.ok.inj h), fun h => h ▸ rfl⟩
  | error e => exact ⟨nofun, nofun⟩

theorem done_eq_error (hr : c.execution.resource c.disk = .ok r) {f : ExecutionFault}
    (hf : c.done.1 = .error f) : ∃ e, f = .verb e ∧
      (c.execution.command.carryOut c.execution.manager r c.world).1 = .error e := by
  have hdone : c.done = _ := Execution.run_of_resource hr
  rw [hdone] at hf
  dsimp only at hf
  cases hresult : (c.execution.command.carryOut c.execution.manager r c.world).1 with
  | ok s =>
    rw [hresult] at hf
    cases hf
  | error e =>
    rw [hresult] at hf
    cases hf
    exact ⟨e, rfl, rfl⟩

/-- There is no resource to work on: nothing is declared, or what is stored for it cannot be
had. -/
theorem resource_eq_error_iff {f : ExecutionFault} : c.execution.resource c.disk = .error f ↔
    (∃ e, c.declared = .error e ∧ f = .declaration e) ∨
      ∃ r e, c.declared = .ok r ∧ c.execution.store.load r.name c.disk = .error e ∧
        f = .load e := by
  cases hdeclared : c.declared with
  | error e =>
    rw [resource_of_undeclared hdeclared]
    simp [eq_comm]
  | ok r =>
    unfold Execution.resource
    rw [show Resource.declaredIn c.execution.environment c.disk c.execution.resourceFile = .ok r
      from hdeclared]
    dsimp only
    cases hload : c.execution.store.load r.name c.disk with
    | error e => simp [hload, eq_comm]
    | ok stored => cases stored <;> simp [hload]

theorem tells_of_done {s : Summary} (h : c.done.1 = .ok s) : s.Tells c.execution.command := by
  cases hresource : c.execution.resource c.disk with
  | error f =>
    rw [done_of_resource_error hresource] at h
    cases h
  | ok r => exact Command.tells_of_carryOut ((done_eq_ok_iff hresource).1 h)

/-- The resource of a summary was saved, so that it can be written, or nothing was found. -/
theorem isWritable_of_done (hr : c.execution.resource c.disk = .ok r) {s : Summary}
    (hs : c.done.1 = .ok s) : s.resource.status.IsWritable ∨
      (c.execution.command ≠ .reconcile ∧ c.FindsNothing r ∧ s.resource = r) := by
  -- every way to a summary ends with a save of its resource, but for the object that is not there
  rcases Command.keeps_of_carryOut ((done_eq_ok_iff hr).1 hs) with ⟨saves, hkeeps, hmem⟩ | hnothing
  · obtain ⟨d₁, d₂, hsave⟩ := hkeeps.accepted.saved _ hmem
    exact .inl (Resource.isWritable_of_toJson (FileStore.isWritable_of_toStore hsave))
  · rw [← findsNothing_iff] at hnothing
    exact .inr hnothing

/-- The summary of a resource that was given cannot be printed exactly if nothing was found and the
status has a number that cannot be written out. -/
theorem unwritable_iff (hr : c.execution.resource c.disk = .ok r) :
    (∃ s, c.done.1 = .ok s ∧ Json.isWritable s.toJson = false) ↔
      c.execution.command ≠ .reconcile ∧ c.FindsNothing r ∧ ¬ r.status.IsWritable := by
  constructor
  · rintro ⟨s, hs, hunwritable⟩
    rw [← Bool.not_eq_true, (tells_of_done hs).isWritable_iff] at hunwritable
    rcases isWritable_of_done hr hs with hw | ⟨hcommand, hnothing, heq⟩
    · exact absurd hw hunwritable
    · exact ⟨hcommand, hnothing, heq ▸ hunwritable⟩
  · rintro ⟨hcommand, hnothing, hnumbers⟩
    obtain ⟨s, hs, heq⟩ := Command.carryOut_of_absent hcommand (findsNothing_iff.1 hnothing)
    refine ⟨s, (done_eq_ok_iff hr).2 hs, ?_⟩
    rw [← Bool.not_eq_true, (Command.tells_of_carryOut hs).isWritable_iff, heq]
    exact hnumbers

/-- A command that has a resource to work on never fails without a report. -/
theorem isReported_of_done (ha : ∀ a ∈ c.arrivals, a.reply.isReported = true)
    (hr : c.execution.resource c.disk = .ok r) {f : ExecutionFault} (hf : c.done.1 = .error f) :
    f.isReported = true := by
  obtain ⟨e, rfl, he⟩ := done_eq_error hr hf
  have hw : c.world.Reports := ha
  exact Command.isReported_of_carryOut hw he

/-- **A command escapes exactly if it is broken**, with a transport that reports its failures. -/
theorem escapes_iff (ha : ∀ a ∈ c.arrivals, a.reply.isReported = true) :
    c.Escapes ↔ c.IsBroken := by
  cases hresource : c.execution.resource c.disk with
  | error f =>
    -- there is no summary, and the fault is the one that the resource could not be had for
    have hescapes : c.Escapes ↔ f.isReported = false := by
      unfold Escapes
      rw [done_of_resource_error hresource]
      simp
    rw [hescapes]
    constructor
    · intro hf
      rcases resource_eq_error_iff.1 hresource with ⟨e, he, rfl⟩ | ⟨r, e, hr, hload, rfl⟩
      · cases e with
        | content e => exact .declaration (Resource.declaredIn_eq_content_iff.1 he) hf
        | _ => cases hf
      · obtain ⟨t, ht, hdecode⟩ := FileStore.load_escapes_iff.1 ⟨e, hload, hf⟩
        exact .stored hr ht hdecode
    · rintro (⟨h, he⟩ | ⟨hr, ht, h⟩ | ⟨hr, -, -, -⟩)
      · have hdeclared : c.declared = _ := Resource.declaredIn_eq_content_iff.2 h
        cases hresource.symm.trans (resource_eq_error_iff.2 (.inl ⟨_, hdeclared, rfl⟩))
        exact he
      · obtain ⟨e, hload, he⟩ := FileStore.load_escapes_iff.2 ⟨_, ht, h⟩
        cases hresource.symm.trans (resource_eq_error_iff.2 (.inr ⟨_, _, hr, hload, rfl⟩))
        exact he
      · cases hresource.symm.trans hr
  | ok r =>
    constructor
    · rintro (⟨f, hf, hunreported⟩ | hunwritable)
      · cases (isReported_of_done ha hresource hf).symm.trans hunreported
      · obtain ⟨hcommand, hnothing, hnumbers⟩ := (unwritable_iff hresource).1 hunwritable
        exact .number hresource hcommand hnothing hnumbers
    · rintro (⟨h, -⟩ | ⟨hr, ht, h⟩ | ⟨hr, hcommand, hnothing, hnumbers⟩)
      · have hdeclared : c.declared = _ := Resource.declaredIn_eq_content_iff.2 h
        cases hresource.symm.trans (resource_eq_error_iff.2 (.inl ⟨_, hdeclared, rfl⟩))
      · obtain ⟨e, hload, -⟩ := FileStore.load_escapes_iff.2 ⟨_, ht, h⟩
        cases hresource.symm.trans (resource_eq_error_iff.2 (.inr ⟨_, _, hr, hload, rfl⟩))
      · exact .inr ((unwritable_iff hr).2 ⟨hcommand, hnothing, hnumbers⟩)

end Turn

/-! ### Runs -/

namespace Run

variable {i : Invocation} {env : Environment} {arrivals : List Arrival} {stamp before : Text}
  {d : Disk} {c : Command}

/-- A run that answers: the program ends with status 0 and has printed one JSON object, a summary of
the command, or it ends with status 1 and has printed nothing. -/
inductive Answers (r : Run) (c : Command) : Prop
  | told {s : Summary} (hstatus : r.finish.ending = .stopped 0) (hs : s.command = c)
      (hout : Json.decode r.finish.out = .ok s.toJson)
  | refused (hstatus : r.finish.ending = .stopped 1) (hout : r.finish.out = [])

/-- The places where a run goes wrong without a report: the configuration, the log, and the command
that is carried out once both are there. -/
inductive Escapes (i : Invocation) (env : Environment) (arrivals : List Arrival) (d : Disk) : Prop
  | configuration (h : Configuration.IsBroken env d)
  | log {c : Configuration} (hc : (Configuration.load i.overrides env d).1 = .ok c)
      (h : Log.Setup.IsBroken env c.settings.debug (logFile i c) (some c.file.logging.level) d)
  | execution {c : Configuration} {setup : Log.Setup} {d' : Disk}
      (hc : (Configuration.load i.overrides env d).1 = .ok c)
      (hsetup : setUp i c env d = (.ok setup, d'))
      (h : Turn.IsBroken
        ⟨⟨i.command, FilePath.ofText i.resourceFile, c.settings, env⟩, arrivals, d'⟩)

/-- A run whose fault nothing reports. -/
def isEscaped (r : Run) : Bool :=
  match r.ending with
  | .escaped _ => true
  | _ => false

theorem not_answers_of_isEscaped {r : Run} (h : r.isEscaped = true) : ¬ r.Answers c := by
  -- the only status that is left to it is that of an interruption
  have hinterrupted : ∀ status, r.finish.ending = .stopped status → status = 130 := by
    intro status hstatus
    unfold isEscaped at h
    split at h
    next t hescaped =>
      unfold finish at hstatus
      rw [hescaped] at hstatus
      split at hstatus
      · next hsucceeded => cases hsucceeded
      · next hfailed => cases hfailed
      · cases hstatus
        rfl
      · cases hescaped.symm.trans hstatus
    · cases h
  rintro (⟨hstatus, -, -⟩ | ⟨hstatus, -⟩)
  all_goals cases hinterrupted _ hstatus

/-- One of two ends: an answer if all is well, and otherwise a fault that escapes. -/
def Ends (r : Run) (c : Command) (isBroken : Prop) : Prop :=
  (¬ isBroken ∧ r.Answers c) ∨ (isBroken ∧ r.isEscaped = true)

theorem Ends.iff_not {r : Run} {isBroken : Prop} (h : r.Ends c isBroken) :
    r.Answers c ↔ ¬ isBroken := by
  rcases h with ⟨hsound, hanswers⟩ | ⟨hbroken, hescaped⟩
  · exact iff_of_true hanswers hsound
  · exact iff_of_false (not_answers_of_isEscaped hescaped) (not_not_intro hbroken)

/-- A command once the log is set up. -/
theorem ends_execute (x : Execution) (setup : Log.Setup) :
    (execute x setup arrivals stamp before d).Ends x.command (Turn.Escapes ⟨x, arrivals, d⟩) := by
  have htells := @Turn.tells_of_done ⟨x, arrivals, d⟩
  unfold execute Turn.Escapes
  rw [show x.run ⟨arrivals, .absent, [], d, [], []⟩ = Turn.done ⟨x, arrivals, d⟩ from rfl]
  generalize Turn.done ⟨x, arrivals, d⟩ = done at htells ⊢
  obtain ⟨result, w⟩ := done
  cases result with
  | ok s =>
    have hs : s.Tells x.command := htells rfl
    dsimp only
    cases hwritable : Json.isWritable s.toJson with
    | true =>
      refine .inl ⟨?_, .told rfl ?_ (hs.decode_printed (hs.isWritable_iff.1 hwritable))⟩
      · simp [hwritable]
      · cases hs <;> rfl
    | false => exact .inr ⟨.inr ⟨s, rfl, hwritable⟩, rfl⟩
  | error f =>
    dsimp only
    cases hreported : f.isReported with
    | true =>
      refine .inl ⟨?_, .refused rfl rfl⟩
      simp [hreported]
    | false => exact .inr ⟨.inl ⟨f, rfl, hreported⟩, rfl⟩

theorem setUp_eq_error_iff {c : Configuration} : (∃ f, (setUp i c env d).1 = .error f) ↔
    Log.Setup.IsBroken env c.settings.debug (logFile i c) (some c.file.logging.level) d :=
  Log.Setup.make_eq_error_iff

/-- An invocation that has no configuration. -/
theorem escapes_iff_of_error {f : ConfigurationFault}
    (h : (Configuration.load i.overrides env d).1 = .error f) :
    Escapes i env arrivals d ↔ isReported f = false := by
  have hconfiguration := @Configuration.escapes_iff i.overrides env d
  rw [h] at hconfiguration
  constructor
  · rintro (hbroken | ⟨hc, -⟩ | ⟨hc, -, -⟩)
    · obtain ⟨f', hf, hunreported⟩ := hconfiguration.2 hbroken
      cases hf
      exact hunreported
    · cases h.symm.trans hc
    · cases h.symm.trans hc
  · exact fun hunreported => .configuration (hconfiguration.1 ⟨f, rfl, hunreported⟩)

/-- An invocation that has a configuration and a log is its command. -/
theorem escapes_iff_of_ok {c : Configuration} {setup : Log.Setup} {d' : Disk}
    (h : (Configuration.load i.overrides env d).1 = .ok c)
    (hsetup : setUp i c env d = (.ok setup, d')) :
    Escapes i env arrivals d ↔ Turn.IsBroken
      ⟨⟨i.command, FilePath.ofText i.resourceFile, c.settings, env⟩, arrivals, d'⟩ := by
  constructor
  · rintro (hbroken | ⟨hc, hbroken⟩ | ⟨hc, hsetup', hbroken⟩)
    · obtain ⟨f, hf, -⟩ := Configuration.escapes_iff.2 hbroken
      cases h.symm.trans hf
    · cases h.symm.trans hc
      obtain ⟨f, hf⟩ := setUp_eq_error_iff.2 hbroken
      rw [hsetup] at hf
      cases hf
    · cases h.symm.trans hc
      cases hsetup.symm.trans hsetup'
      exact hbroken
  · exact .execution h hsetup

/-- An invocation, stage by stage: one goes wrong in its own way, or the next begins. -/
theorem ends_ofInvocation (ha : ∀ a ∈ arrivals, a.reply.isReported = true) :
    (ofInvocation i env arrivals stamp d).Ends i.command (Escapes i env arrivals d) := by
  unfold ofInvocation
  cases hload : Configuration.load i.overrides env d with
  | mk result warnings =>
    cases result with
    | error f =>
      have hescapes : Escapes i env arrivals d ↔ _ := escapes_iff_of_error (by rw [hload])
      unfold Ends
      rw [hescapes]
      dsimp only
      cases hreported : isReported f with
      | true => exact .inl ⟨nofun, .refused rfl rfl⟩
      | false => exact .inr ⟨rfl, rfl⟩
    | ok c =>
      have hc : (Configuration.load i.overrides env d).1 = .ok c := by rw [hload]
      dsimp only
      cases hsetup : setUp i c env d with
      | mk log d' =>
        cases log with
        | error f =>
          have hbroken := setUp_eq_error_iff.1 ⟨f, congrArg Prod.fst hsetup⟩
          exact .inr ⟨.log hc hbroken, rfl⟩
        | ok setup =>
          rw [escapes_iff_of_ok hc hsetup, ← Turn.escapes_iff ha]
          exact ends_execute _ setup

theorem ends_run {words : List Text} (hi : Invocation.ofWords words = .ok i)
    (ha : ∀ a ∈ arrivals, a.reply.isReported = true) :
    (run words env arrivals stamp d).Ends i.command (Escapes i env arrivals d) := by
  unfold run
  rw [hi]
  exact ends_ofInvocation ha

/-- An observation of the page. -/
def pageWords : List Text := ["observe", "page.yaml"]

/-- A home directory where nothing is stored. -/
def homeOnly : Environment := [("HOME", "/home")]

/-- The page is found. -/
def pageFound : List Arrival := [⟨.response 200 "x" [], false⟩]

theorem ofWords_pageWords : ∃ i, Invocation.ofWords pageWords = .ok i ∧ i.command = .observe ∧
    i.options.logFile = none := by
  have hchecked : (Invocation.ofWords pageWords).toOption.map
      (fun i => (i.command, i.options.logFile)) = some (.observe, none) := by decide +kernel
  cases hi : Invocation.ofWords pageWords with
  | error e =>
    rw [hi] at hchecked
    cases hchecked
  | ok i =>
    rw [hi] at hchecked
    obtain ⟨hcommand, hlog⟩ := Prod.mk.inj (Option.some.inj hchecked)
    exact ⟨i, rfl, hcommand, hlog⟩

set_option maxRecDepth 10000 in
theorem isEscaped_pageFound :
    (run pageWords homeOnly pageFound [] Session.files).isEscaped = false := by
  decide +kernel

/-- A page, and a configuration of the project whose key is a number. -/
def numberKeyed : Disk :=
  ⟨[(["page.yaml"], .file Session.pageFile), ([".request_reconciler"], .directory),
    ([".request_reconciler", "config.yml"], .file "1: x\n")], []⟩

set_option maxRecDepth 10000 in
theorem isEscaped_numberKeyed : (run pageWords homeOnly [] [] numberKeyed).isEscaped = true := by
  decide +kernel

end Run

end DesiredState
