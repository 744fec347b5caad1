import DesiredState.CommandLine.Run
import DesiredState.Proofs.Settings.Acceptance

/-!
# Loading the configuration

When a configuration cannot be loaded for a reason that is not reported. Every value in the files
is checked, so settings that come of them are refused for reasons that are reported. What remains
is what stands before the check: the home directory, the texts of the files, and their keys.

* `Hierarchy.IsHomeless`: a home directory is asked for that is not known.
* `Hierarchy.mergeFiles_eq_error_iff`: the first file that cannot be read.
* `Hierarchy.load_escapes_iff`: the files that cannot be merged and are not reported.
* `Settings.isRefusal_of_load`: what the files say is never too large for a setting.
* `Configuration.escapes_iff`: **the configurations that cannot be loaded and are not reported.**
-/

namespace DesiredState

/-! ### Keys -/

namespace ConfigFile

/-- All keys are texts. -/
def AreTextKeys (es : List (Key × Data)) : Prop := ∀ e ∈ es, isTextKey e.1 = true

/-- Of keys that are the same, both are texts or none is. -/
theorem isTextKey_of_isSame {a b : Key} (h : a.isSame b = true) : isTextKey a = isTextKey b := by
  unfold Key.isSame at h
  split at h
  · next x y ha hb =>
    -- a key with a number is no text
    have hnone : ∀ {k : Key} {x : Extended}, k.number? = some x → isTextKey k = false := by
      rintro (s | written) x hk
      · cases s with
        | str t => cases hk
        | _ => rfl
      · rfl
    rw [hnone ha, hnone hb]
  · rw [of_decide_eq_true h]

theorem areTextKeys_set {k : Key} {v : Data} {es : List (Key × Data)} :
    AreTextKeys (Data.set k v es) ↔ isTextKey k = true ∧ AreTextKeys es := by
  induction es with
  | nil => simp [Data.set, AreTextKeys]
  | cons e es ih =>
    obtain ⟨k', v'⟩ := e
    unfold AreTextKeys at ih ⊢
    unfold Data.set
    split
    · next hsame =>
      rw [List.forall_mem_cons, List.forall_mem_cons, ← isTextKey_of_isSame hsame]
      simp
    · rw [List.forall_mem_cons, ih, List.forall_mem_cons]
      exact and_left_comm

theorem areTextKeys_merge {es new : List (Key × Data)} :
    AreTextKeys (Data.merge es new) ↔ AreTextKeys es ∧ AreTextKeys new := by
  induction new generalizing es with
  | nil => simp [Data.merge, AreTextKeys]
  | cons e new ih =>
    have hstep : Data.merge es (e :: new) = Data.merge (Data.set e.1 e.2 es) new := rfl
    rw [hstep, ih, areTextKeys_set]
    unfold AreTextKeys
    rw [List.forall_mem_cons, and_comm (a := isTextKey e.1 = true), and_assoc]

theorem areTextKeys_of_interpolateEntries {env : Environment} {es es' : List (Key × Data)}
    (h : env.interpolateEntries es = .ok es') : AreTextKeys es' ↔ AreTextKeys es := by
  induction es generalizing es' with
  | nil =>
    cases h
    rfl
  | cons e es ih =>
    obtain ⟨k, v⟩ := e
    rw [Environment.interpolateEntries] at h
    cases hv : env.interpolateData v with
    | error f =>
      rw [hv] at h
      cases h
    | ok v' =>
      cases hes : env.interpolateEntries es with
      | error f =>
        rw [hv, hes] at h
        cases h
      | ok rest =>
        rw [hv, hes] at h
        cases h
        have hrest := ih hes
        unfold AreTextKeys at hrest ⊢
        rw [List.forall_mem_cons, List.forall_mem_cons, hrest]

theorem ofEntries_eq_keyNotText_iff {es : List (Key × Data)} :
    ofEntries es = .error .keyNotText ↔ ¬ AreTextKeys es := by
  have hall : (es.all fun e => isTextKey e.1) = true ↔ AreTextKeys es := List.all_eq_true
  unfold ofEntries
  rw [← hall]
  split
  · next h => cases check es <;> simp [h]
  · next h => simp [h]

end ConfigFile

/-! ### Files -/

namespace Hierarchy

variable {env : Environment} {d : Disk} {ps : List FilePath} {es es' : List (Key × Data)}
  {warnings : List Text} {f : HierarchyFault}

/-- A home directory is asked for that is not known: the own one if it begins with a tilde, or that
of another user, in front of the path that a variable names. -/
inductive IsHomeless (env : Environment) : Prop
  | own {t : Text} (h : env.get? "HOME" = some (CodePoint.ofChar '~' :: t))
  | other {t user : Text} {names : List Text} (h : env.get? fileVariable = some t)
      (hpath : FilePath.ofText t = ⟨[], (CodePoint.ofChar '~' :: user) :: names⟩)
      (huser : user ≠ [])

theorem isHomeless_of_home (h : home env = .error f) : f = .noHome ∧ IsHomeless env := by
  unfold home at h
  split at h
  · next c t hhome =>
    split at h
    · next hc =>
      cases h
      subst hc
      exact ⟨rfl, .own hhome⟩
    · cases h
  · cases h

theorem isHomeless_of_expandHome {t : Text} (ht : env.get? fileVariable = some t)
    (h : expandHome env (FilePath.ofText t) = .error f) : f = .noHome ∧ IsHomeless env := by
  unfold expandHome at h
  split at h
  · next c user names hlead hnames =>
    split at h
    · cases h
    next hc =>
    obtain rfl : c = CodePoint.ofChar '~' := Decidable.not_not.1 hc
    split at h
    · cases hhome : home env with
      | error e =>
        rw [hhome] at h
        cases h
        exact isHomeless_of_home hhome
      | ok p =>
        rw [hhome] at h
        cases h
    · next huser =>
      cases h
      have hpath : FilePath.ofText t = ⟨[], (CodePoint.ofChar '~' :: user) :: names⟩ := by
        rw [← hlead, ← hnames]
      exact ⟨rfl, .other ht hpath (by simpa using huser)⟩
  · cases h

theorem isHomeless_of_named (h : named env d = .error f) : f = .noHome ∧ IsHomeless env := by
  unfold named at h
  split at h
  · next c t ht =>
    cases hexpand : expandHome env (FilePath.ofText (c :: t)) with
    | error e =>
      rw [hexpand] at h
      cases h
      exact isHomeless_of_expandHome ht hexpand
    | ok p =>
      rw [hexpand] at h
      cases h
  · cases h

theorem named_of_other {t user : Text} {names : List Text} (h : env.get? fileVariable = some t)
    (hpath : FilePath.ofText t = ⟨[], (CodePoint.ofChar '~' :: user) :: names⟩)
    (huser : user ≠ []) : named env d = .error .noHome := by
  have hexpand : expandHome env (FilePath.ofText t) = .error .noHome := by
    obtain ⟨x, user, rfl⟩ := List.exists_cons_of_ne_nil huser
    rw [hpath]
    rfl
  unfold named
  rw [h]
  cases t with
  | nil => cases hpath
  | cons c t =>
    dsimp only
    rw [hexpand]
    rfl

/-- The places of the files are not known exactly if a home directory is not. -/
theorem candidates_eq_error_iff :
    candidates env d = .error f ↔ f = .noHome ∧ IsHomeless env := by
  have hbind : candidates env d =
      match named env d, home env with
      | .error e, _ => .error e
      | .ok _, .error e => .error e
      | .ok named, .ok h =>
        .ok (named ++ [FilePath.append ⟨"/", d.work⟩ projectFile, h.append userFile]) := by
    unfold candidates
    cases named env d <;> cases home env <;> rfl
  rw [hbind]
  constructor
  · intro h
    split at h
    · next hnamed =>
      cases h
      exact isHomeless_of_named hnamed
    · next hhome =>
      cases h
      exact isHomeless_of_home hhome
    · cases h
  · rintro ⟨rfl, h | ⟨h, hpath, huser⟩⟩
    · have hhome : home env = .error .noHome := by
        unfold home
        rw [h]
        rfl
      cases hnamed : named env d with
      | error e => rw [(isHomeless_of_named hnamed).1]
      | ok ps => rw [hhome]
    · rw [named_of_other h hpath huser]

theorem existing_error (h : existing d ps = .error f) : ∃ e, f = .content (.file e) := by
  induction ps with
  | nil => cases h
  | cons p ps ih =>
    unfold existing at h
    split at h
    · next e _ =>
      cases h
      exact ⟨e, rfl⟩
    · cases hrest : existing d ps with
      | error e =>
        rw [hrest] at h
        cases h
        exact ih hrest
      | ok qs =>
        rw [hrest] at h
        cases h
    · exact ih h

/-- A file that can be read. -/
def Reads (d : Disk) (p : FilePath) : Prop := ∃ data, d.readData p = .ok data

/-- **The first file that cannot be read** is what the merge fails with. -/
theorem mergeFiles_eq_error_iff : (mergeFiles d ps es warnings).1 = .error f ↔
    ∃ before p after e, ps = before ++ p :: after ∧ (∀ q ∈ before, Reads d q) ∧
      d.readData p = .error e ∧ f = .content e := by
  induction ps generalizing es warnings with
  | nil => simp [mergeFiles]
  | cons p ps ih =>
    unfold mergeFiles
    cases hp : d.readData p with
    | error e =>
      constructor
      · intro h
        cases h
        exact ⟨[], p, ps, e, rfl, List.forall_mem_nil _, hp, rfl⟩
      · rintro ⟨before, q, after, e', hps, hbefore, hq, rfl⟩
        cases before with
        | nil =>
          cases hps
          cases hp.symm.trans hq
          rfl
        | cons q' before =>
          cases hps
          obtain ⟨data, hdata⟩ := hbefore p List.mem_cons_self
          cases hp.symm.trans hdata
    | ok data =>
      dsimp only
      rw [ih]
      constructor
      · rintro ⟨before, q, after, e, rfl, hbefore, hq, rfl⟩
        exact ⟨p :: before, q, after, e, rfl, List.forall_mem_cons.2 ⟨⟨data, hp⟩, hbefore⟩, hq, rfl⟩
      · rintro ⟨before, q, after, e, hps, hbefore, hq, rfl⟩
        cases before with
        | nil =>
          cases hps
          cases hp.symm.trans hq
        | cons q' before =>
          cases hps
          exact ⟨before, q, after, e, rfl, (List.forall_mem_cons.1 hbefore).2, hq, rfl⟩

/-- A file on the top level of which all keys are texts, if it holds a dictionary. -/
def HasTextKeys (d : Disk) (p : FilePath) : Prop :=
  ∀ es, d.readData p = .ok (.dict es) → ConfigFile.AreTextKeys es

open ConfigFile (AreTextKeys areTextKeys_merge)

/-- All keys that files leave are texts exactly if those of all files are. -/
theorem mergeFiles_ok (h : (mergeFiles d ps es warnings).1 = .ok es') :
    AreTextKeys es' ↔ AreTextKeys es ∧ ∀ p ∈ ps, HasTextKeys d p := by
  induction ps generalizing es warnings with
  | nil =>
    cases h
    simp
  | cons p ps ih =>
    unfold mergeFiles at h
    split at h
    · cases h
    next data hp =>
    dsimp only at h
    rw [ih h, List.forall_mem_cons, ← and_assoc]
    refine and_congr_left' ?_
    unfold HasTextKeys
    rw [hp]
    unfold mergeFile
    split
    · next entries =>
      rw [areTextKeys_merge]
      simp
    · simp
    · next hdict _ =>
      refine (and_iff_left fun entries hentries => ?_).symm
      cases hentries
      exact absurd rfl (hdict entries)

theorem files_eq_error (h : files env d = .error f) :
    (f = .noHome ∧ IsHomeless env) ∨ ∃ e, f = .content (.file e) := by
  unfold files at h
  cases hcandidates : candidates env d with
  | error e =>
    rw [hcandidates] at h
    cases h
    exact .inl (candidates_eq_error_iff.1 hcandidates)
  | ok ps =>
    rw [hcandidates] at h
    exact .inr (existing_error h)

theorem files_of_isHomeless (h : IsHomeless env) : files env d = .error .noHome := by
  unfold files
  rw [candidates_eq_error_iff.2 ⟨rfl, h⟩]
  rfl

/-- The first file that cannot be read, beginning with the one that counts least, has a text for
which there is no room. -/
inductive IsOverfull (env : Environment) (d : Disk) : Prop
  | intro {ps before after : List FilePath} {p : FilePath} {e : ContentFault}
      (hfiles : files env d = .ok ps) (horder : ps.reverse = before ++ p :: after)
      (hbefore : ∀ q ∈ before, Reads d q) (hp : d.readData p = .error e)
      (he : e.isReported = false)

/-- Once the files are known, they are merged, and then the references are replaced. -/
theorem load_of_files (h : files env d = .ok ps) : (load env d).1 =
    match (mergeFiles d ps.reverse [] []).1 with
    | .error e => .error e
    | .ok es => (env.interpolateEntries es).mapError .reference := by
  unfold load
  rw [h]
  dsimp only
  generalize mergeFiles d ps.reverse [] [] = merge
  obtain ⟨result, warnings⟩ := merge
  cases result <;> rfl

theorem isOverfull_iff (h : files env d = .ok ps) : IsOverfull env d ↔ ∃ e,
    (mergeFiles d ps.reverse [] []).1 = .error (.content e) ∧ e.isReported = false := by
  constructor
  · rintro ⟨hfiles, horder, hbefore, hp, he⟩
    cases h.symm.trans hfiles
    exact ⟨_, mergeFiles_eq_error_iff.2 ⟨_, _, _, _, horder, hbefore, hp, rfl⟩, he⟩
  · rintro ⟨e, hmerge, he⟩
    obtain ⟨before, p, after, e', horder, hbefore, hp, heq⟩ := mergeFiles_eq_error_iff.1 hmerge
    cases heq
    exact ⟨h, horder, hbefore, hp, he⟩

/-- **The files that cannot be merged and are not reported.** -/
theorem load_escapes_iff :
    (∃ f, (load env d).1 = .error f ∧ Run.isReported (.files f) = false) ↔
      IsHomeless env ∨ IsOverfull env d := by
  cases hfiles : files env d with
  | error f =>
    have hload : (load env d).1 = .error f := by
      unfold load
      rw [hfiles]
    rw [hload]
    rcases files_eq_error hfiles with ⟨rfl, hhome⟩ | ⟨e, rfl⟩
    · exact iff_of_true ⟨_, rfl, rfl⟩ (.inl hhome)
    · refine iff_of_false ?_ ?_
      · rintro ⟨_, hf, hunreported⟩
        cases hf
        cases hunreported
      · rintro (hhome | ⟨hfiles', -, -, -, -⟩)
        · cases hfiles.symm.trans (files_of_isHomeless hhome)
        · cases hfiles.symm.trans hfiles'
  | ok ps =>
    have hhome : ¬ IsHomeless env := fun h => by
      cases hfiles.symm.trans (files_of_isHomeless h)
    rw [load_of_files hfiles, or_iff_right hhome, isOverfull_iff hfiles]
    cases hmerge : (mergeFiles d ps.reverse [] []).1 with
    | error f =>
      obtain ⟨-, -, -, e, -, -, -, rfl⟩ := mergeFiles_eq_error_iff.1 hmerge
      simp [Run.isReported]
    | ok es =>
      refine iff_of_false ?_ ?_
      · -- a reference to a variable that cannot be looked up is reported
        rintro ⟨f, hf, hunreported⟩
        dsimp only at hf
        cases hes : env.interpolateEntries es with
        | error e =>
          rw [hes] at hf
          cases hf
          cases hunreported
        | ok es' =>
          rw [hes] at hf
          cases hf
      · rintro ⟨e, he, -⟩
        cases he

/-- All keys of the merged configuration are texts exactly if those of all files are. -/
theorem load_ok (h : (load env d).1 = .ok es) :
    ∃ ps, files env d = .ok ps ∧ (AreTextKeys es ↔ ∀ p ∈ ps, HasTextKeys d p) := by
  cases hfiles : files env d with
  | error e =>
    unfold load at h
    rw [hfiles] at h
    cases h
  | ok ps =>
    rw [load_of_files hfiles] at h
    refine ⟨ps, rfl, ?_⟩
    cases hmerge : (mergeFiles d ps.reverse [] []).1 with
    | error f =>
      rw [hmerge] at h
      cases h
    | ok merged =>
      rw [hmerge] at h
      dsimp only at h
      cases hes : env.interpolateEntries merged with
      | error f =>
        rw [hes] at h
        cases h
      | ok es' =>
        rw [hes] at h
        cases h
        have hkeys := mergeFiles_ok hmerge
        rw [ConfigFile.areTextKeys_of_interpolateEntries hes, hkeys]
        simp [AreTextKeys]

end Hierarchy

/-! ### Settings -/

namespace Settings

/-- **What the files say is never too large for a setting**: settings are refused for their values
only. -/
theorem isRefusal_of_load {overrides : Overrides} {env : Environment} {file : ConfigFile}
    {f : SettingsFault} (h : load overrides env file.fallbacks = .error f) :
    f.isRefusal = true := by
  let a : Sources := ⟨overrides, env, file.fallbacks⟩
  -- a source that has a time limit gives a number with a point or a text
  have hlimit : ∀ k, (∃ x, a.given? k .files = some (.float x)) →
      (∃ o : Option Binary64, a.given? k .commandLine = o.map .float) →
      (∃ o : Option Text, a.given? k .environment = o.map .str) →
      ¬ ∃ d ∈ a.limit? k, d.IsTooLarge := by
    rintro k ⟨x, hfile⟩ ⟨override, hoverride⟩ ⟨value, hvariable⟩ ⟨d, hd, hlarge⟩
    unfold Sources.limit? at hd
    rw [hfile, hoverride, hvariable] at hd
    cases override with
    | some y =>
      cases hd
      cases hlarge
    | none => cases value <;> cases hd <;> cases hlarge
  by_contra hf
  obtain rfl := SettingsFault.isRefusal_eq_false_iff.1 (Bool.eq_false_of_not_eq_true hf)
  have hload : a.load = .error .tooLarge := h
  rcases Sources.load_eq_tooLarge_iff.1 hload with htimeout | ⟨-, hconnect⟩
  · exact hlimit .timeout ⟨file.http.timeout, rfl⟩ ⟨overrides.timeout, rfl⟩ ⟨_, rfl⟩ htimeout
  · exact hlimit .connectTimeout ⟨file.http.connectTimeout, rfl⟩ ⟨none, rfl⟩ ⟨_, rfl⟩ hconnect

end Settings

namespace Configuration

variable {overrides : Overrides} {env : Environment} {d : Disk}

/-- A configuration that cannot be loaded for a reason that is not reported: a home directory is not
known, a file has a text for which there is no room, or all is loaded and a file has a key that is
no text. -/
inductive IsBroken (env : Environment) (d : Disk) : Prop
  | home (h : Hierarchy.IsHomeless env)
  | file (h : Hierarchy.IsOverfull env d)
  | key {es : List (Key × Data)} {ps : List FilePath} {p : FilePath}
      (hload : (Hierarchy.load env d).1 = .ok es) (hfiles : Hierarchy.files env d = .ok ps)
      (hp : p ∈ ps) (hkey : ¬ Hierarchy.HasTextKeys d p)

theorem load_escapes_of_error {f : HierarchyFault} (h : (Hierarchy.load env d).1 = .error f) :
    (∃ f, (load overrides env d).1 = .error f ∧ Run.isReported f = false) ↔
      ∃ f, (Hierarchy.load env d).1 = .error f ∧ Run.isReported (.files f) = false := by
  unfold load
  generalize Hierarchy.load env d = loaded at h ⊢
  obtain ⟨result, warnings⟩ := loaded
  cases h
  simp

/-- Of the faults behind the loading of the files, only the one about keys is not reported. -/
theorem load_escapes_of_ok {es : List (Key × Data)} (h : (Hierarchy.load env d).1 = .ok es) :
    (∃ f, (load overrides env d).1 = .error f ∧ Run.isReported f = false) ↔
      ¬ ConfigFile.AreTextKeys es := by
  unfold load
  generalize Hierarchy.load env d = loaded at h ⊢
  obtain ⟨result, warnings⟩ := loaded
  cases h
  have hkeys := @ConfigFile.ofEntries_eq_keyNotText_iff es
  dsimp only
  cases hfile : ConfigFile.ofEntries es with
  | error f =>
    rw [hfile] at hkeys
    cases f with
    | keyNotText => simp [Run.isReported, hkeys.1 rfl]
    | report r => simpa [Run.isReported] using hkeys
  | ok file =>
    rw [hfile] at hkeys
    have hrefusal : ∀ f, Settings.load overrides env file.fallbacks = .error f →
        f.isRefusal = true := fun f => Settings.isRefusal_of_load
    dsimp only
    cases hsettings : Settings.load overrides env file.fallbacks with
    | error f => simpa [Run.isReported, hrefusal f hsettings] using hkeys
    | ok s => simpa using hkeys

/-- **The configurations that cannot be loaded and are not reported.** -/
theorem escapes_iff : (∃ f, (load overrides env d).1 = .error f ∧ Run.isReported f = false) ↔
    IsBroken env d := by
  have hescapes := @Hierarchy.load_escapes_iff env d
  cases hload : (Hierarchy.load env d).1 with
  | error f =>
    rw [load_escapes_of_error hload, hescapes]
    constructor
    · rintro (hhome | hfile)
      · exact .home hhome
      · exact .file hfile
    · rintro (hhome | hfile | ⟨hload', -, -, -⟩)
      · exact .inl hhome
      · exact .inr hfile
      · cases hload.symm.trans hload'
  | ok es =>
    rw [load_escapes_of_ok hload]
    obtain ⟨ps, hfiles, hkeys⟩ := Hierarchy.load_ok hload
    rw [hkeys]
    constructor
    · intro hnot
      obtain ⟨p, hnot⟩ := Classical.not_forall.1 hnot
      obtain ⟨hp, hkey⟩ := Classical.not_imp.1 hnot
      exact .key hload hfiles hp hkey
    · have hloaded : ¬ ∃ f, (Hierarchy.load env d).1 = .error f ∧
          Run.isReported (.files f) = false := by
        rintro ⟨f, hf, -⟩
        cases hload.symm.trans hf
      rw [hescapes] at hloaded
      rintro (hhome | hfile | ⟨-, hfiles', hp, hkey⟩)
      · exact absurd (.inl hhome) hloaded
      · exact absurd (.inr hfile) hloaded
      · cases hfiles.symm.trans hfiles'
        exact fun hall => hkey (hall _ hp)

end Configuration

end DesiredState
