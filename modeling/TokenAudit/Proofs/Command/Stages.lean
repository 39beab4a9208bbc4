import TokenAudit.Command.Runs
import TokenAudit.Proofs.Project.Target
import TokenAudit.Proofs.Session

/-!
# The stages of a run

A run of an audit first checks what it needs, one thing after the other, and is refused at the first
one that is not in order. Only then it does its work: it prepares the output directory, audits,
records the run and writes the outputs. How the wording of a stop opens tells a refusal from a stop
at work.

## Main definitions

* `RunRefusal`: why a run is refused, with the causes that are reported.
* `RunRefused`: when a run is refused, and in which file system it is left.
* `Stop.AtWork`: the stops that are no refusals.

## Main results

* `ProjectContext.run_openAt`: opening a project.
* `Command.stopsIn_runInto`: once the output directory is prepared, no run is refused.
* `Command.run_runAudit_of_refused`: a run that has to be refused is refused.
* `Command.refused_or_atWork`: a run that stops has been refused, or stops at work.
-/

namespace TokenAudit

/-! ## Refusals -/

/-- Why a run is refused. -/
inductive RunRefusal
  /-- The configuration of the project cannot be read. -/
  | unreadableConfig (path : Path) (error : FileError)
  /-- The configuration of the project is none. -/
  | invalidConfig (path : Path)
  /-- The spec cannot be loaded or is not valid. -/
  | invalidSpec (file : String) (error : SpecError)
  /-- The sources that the spec names are not there. -/
  | missingSources (path : Path)
  /-- The output directory of the audit is there, and it must not be replaced. -/
  | outputExists (dir : Path)

/-- The causes that are reported, from the outermost to the innermost. -/
def RunRefusal.causes : RunRefusal → List Cause
  | unreadableConfig path error =>
    [⟨"Failed to read project config at " ++ path.text, .complete⟩, ⟨error.message, .complete⟩]
  | invalidConfig path => [⟨"Failed to parse project config at " ++ path.text, .complete⟩]
  | invalidSpec file error => ⟨"Invalid audit spec at " ++ file, .complete⟩ :: error.causes
  | missingSources path => [⟨"Audit sources not found: " ++ path.text, .complete⟩]
  | outputExists dir =>
    [⟨"Audit output already exists at " ++ dir.text ++ " (rerun with --force to overwrite)",
      .complete⟩]

/-- How refusals open. -/
def refusalOpenings : List String :=
  ["Failed to read project config at ", "Failed to parse project config at ",
    "Invalid audit spec at ", "Audit sources not found: ", "Audit output already exists at "]

/-- How the other stops of a run open. -/
def workOpenings : List String :=
  ["Failed to open project database at ", "Failed to clean existing audit output dir ",
    "Failed to create audit output dir ", "Source directory not found: ", "I/O error at ",
    "Failed to write run metadata to ", "Failed to write spec copy to "]

/-- The run was broken off, or something could not be done that is no reason to refuse it. -/
def Stop.AtWork (stop : Stop) : Prop :=
  (∃ fault, stop = .broken fault) ∨ stop.OpensWith workOpenings

theorem RunRefusal.opensWith (refusal : RunRefusal) :
    (Stop.failed refusal.causes).OpensWith refusalOpenings := by
  cases refusal with
  | unreadableConfig path error => exact .of_append (by simp [refusalOpenings]) _ _ _
  | invalidConfig path => exact .of_append (by simp [refusalOpenings]) _ _ _
  | invalidSpec file error => exact .of_append (by simp [refusalOpenings]) _ _ _
  | missingSources path => exact .of_append (by simp [refusalOpenings]) _ _ _
  | outputExists dir =>
    rw [causes, String.append_assoc]
    exact .of_append (by simp [refusalOpenings]) _ _ _

/-- A run with the spec in `file`, in the project at `root`, has to be refused, and leaves the last
file system. What is needed is looked at in this order, from the spec on with the run store open. -/
inductive RunRefused (fs : FileSystem) (root : Path) (file : String) (force : Bool) :
    RunRefusal → FileSystem → Prop
  | unreadableConfig {error : FileError}
      (hread : fs.readText (ProjectLayout.mk root).configPath = .error error) :
      RunRefused fs root file force (.unreadableConfig (ProjectLayout.mk root).configPath error) fs
  | invalidConfig {text : String}
      (hread : fs.readText (ProjectLayout.mk root).configPath = .ok text)
      (hconfig : ProjectConfig.ofText? text = none) :
      RunRefused fs root file force (.invalidConfig (ProjectLayout.mk root).configPath) fs
  | invalidSpec {project : ProjectContext} {opened : FileSystem} {error : SpecError}
      (hopen : (ProjectContext.openAt root).run fs = (.ok project, opened))
      (hload : AuditSpec.load opened ⟨file⟩ = .error error) :
      RunRefused fs root file force (.invalidSpec file error) opened
  | missingSources {project : ProjectContext} {opened : FileSystem} {loaded : LoadedSpec}
      (hopen : (ProjectContext.openAt root).run fs = (.ok project, opened))
      (hload : AuditSpec.load opened ⟨file⟩ = .ok loaded)
      (hsources : opened.pathExists (project.layout.resolve ⟨loaded.spec.sources⟩) = false) :
      RunRefused fs root file force
        (.missingSources (project.layout.resolve ⟨loaded.spec.sources⟩)) opened
  | outputExists {project : ProjectContext} {opened : FileSystem} {loaded : LoadedSpec}
      (hopen : (ProjectContext.openAt root).run fs = (.ok project, opened))
      (hload : AuditSpec.load opened ⟨file⟩ = .ok loaded)
      (hsources : opened.pathExists (project.layout.resolve ⟨loaded.spec.sources⟩) = true)
      (hexists : opened.pathExists (project.layout.runOutput loaded.spec.name) = true)
      (hforce : force = false) :
      RunRefused fs root file force
        (.outputExists (project.layout.runOutput loaded.spec.name)) opened

/-! ## Opening a project -/

theorem OpenStore.run_openIn (text : String) (path : Path) (fs : FileSystem) :
    (OpenStore.openIn text path).run fs =
      ((OpenStore.openAt fs path).1.mapError fun error =>
        .failed [⟨text, .complete⟩, error.cause], (OpenStore.openAt fs path).2) := by
  rw [OpenStore.openIn, Session.run_bind, Session.run_get]
  dsimp only
  rw [Session.run_bind, Session.run_set]
  exact Session.run_checkStore _ _ _

theorem OpenStore.run_openIn_eq_ok_iff {text : String} {path : Path} {fs after : FileSystem}
    {store : OpenStore} :
    (OpenStore.openIn text path).run fs = (.ok store, after) ↔
      OpenStore.openAt fs path = (.ok store, after) := by
  rw [run_openIn]
  rcases OpenStore.openAt fs path with ⟨error | opened, kept⟩
  · constructor <;> intro h <;> cases h
  · constructor <;> intro h <;> cases h <;> rfl

namespace ProjectContext

/-- The project opens if its configuration is in order and its run store opens. -/
theorem run_openAt (root : Path) (fs : FileSystem) :
    (openAt root).run fs =
      match fs.readText (ProjectLayout.mk root).configPath with
      | .error error =>
        (.error (.failed
          (RunRefusal.unreadableConfig (ProjectLayout.mk root).configPath error).causes), fs)
      | .ok text =>
        match ProjectConfig.ofText? text with
        | none =>
          (.error (.failed
            (RunRefusal.invalidConfig (ProjectLayout.mk root).configPath).causes), fs)
        | some config =>
          let path := (ProjectLayout.mk root).resolve ⟨config.storePath⟩
          match OpenStore.openAt fs path with
          | (.ok store, after) => (.ok ⟨⟨root⟩, config, path, store⟩, after)
          | (.error error, after) =>
            (.error (.failed [⟨"Failed to open project database at " ++ path.text, .complete⟩,
              error.cause]), after) := by
  rw [openAt, Session.run_bind, ProjectConfig.load, Session.run_bind, Session.run_read]
  cases fs.readText (ProjectLayout.mk root).configPath with
  | error error => rfl
  | ok text =>
    dsimp only [Except.mapError]
    cases ProjectConfig.ofText? text with
    | none => rfl
    | some config =>
      dsimp only
      rw [Session.run_pure]
      dsimp only
      rw [Session.run_bind, OpenStore.run_openIn]
      rcases OpenStore.openAt fs ((ProjectLayout.mk root).resolve ⟨config.storePath⟩) with
        ⟨_ | _, after⟩
      · rfl
      · rfl

variable (project : ProjectContext) (fs : FileSystem)

theorem run_specSources (spec : AuditSpec) :
    (project.specSources spec).run fs =
      if fs.pathExists (project.layout.resolve ⟨spec.sources⟩) = true then
        (.ok (project.layout.resolve ⟨spec.sources⟩), fs)
      else
        (.error (.failed
          (RunRefusal.missingSources (project.layout.resolve ⟨spec.sources⟩)).causes), fs) := by
  rw [specSources, Session.run_bind, Session.run_get]
  dsimp only
  cases fs.pathExists (project.layout.resolve ⟨spec.sources⟩) <;> rfl

/-- An output directory that is there is not replaced unless that is wanted. -/
theorem run_prepareOutput_of_exists {audit : String} (hplain : isPlainName audit = true)
    (hexists : fs.pathExists (project.layout.runOutput audit) = true) :
    (project.prepareOutput audit false).run fs =
      (.error (.failed (RunRefusal.outputExists (project.layout.runOutput audit)).causes), fs) := by
  rw [prepareOutput, hplain, Bool.not_true, if_neg Bool.false_ne_true, Session.run_bind,
    Session.run_get]
  dsimp only
  rw [if_pos hexists]
  rfl

/-- Otherwise, that it cannot be prepared is no refusal. -/
theorem opensWith_of_prepareOutput {audit : String} {force : Bool} {stop : Stop}
    (hplain : isPlainName audit = true)
    (hfree : fs.pathExists (project.layout.runOutput audit) = true → force = true)
    (hstop : ((project.prepareOutput audit force).run fs).1 = .error stop) :
    stop.OpensWith workOpenings := by
  -- Whether something is removed first or not, the directory is created at the end.
  have hcreate : Session.StopsIn (·.OpensWith workOpenings) (do
      Session.createDirAll ("Failed to create audit output dir " ++
        (project.layout.runOutput audit).text) (project.layout.runOutput audit)
      return project.layout.runOutput audit) := by
    apply Session.StopsIn.bind
    · apply Session.StopsIn.createDirAll
      exact fun error => .of_append (by simp [workOpenings]) _ _ _
    · exact fun _ _ => .pure _
  rw [prepareOutput, hplain, Bool.not_true, if_neg Bool.false_ne_true, Session.run_bind,
    Session.run_get] at hstop
  dsimp only at hstop
  cases hexists : fs.pathExists (project.layout.runOutput audit) with
  | false =>
    rw [hexists, if_neg Bool.false_ne_true] at hstop
    exact hcreate fs stop hstop
  | true =>
    rw [hexists, if_pos rfl, hfree hexists, Bool.not_true, if_neg Bool.false_ne_true] at hstop
    refine Session.StopsIn.bind ?_ (fun _ _ => hcreate) fs stop hstop
    apply Session.StopsIn.change
    exact fun error => .of_append (by simp [workOpenings]) _ _ _

end ProjectContext

/-! ## Work -/

/-- Sources that cannot be listed are missing. -/
theorem SourceRoot.sources_eq_error {source : SourceRoot} {fs : FileSystem} {error : AuditError}
    (h : source.sources fs = .error error) : error = .missingDirectory source.root.text := by
  rw [sources] at h
  split at h
  · cases h
  · cases h
  · cases h
    rfl

/-- A run that is not broken off fails only if the sources cannot be listed. -/
theorem Auditor.run_eq_ok_error {auditor : Auditor} {info : RunInfo} {times : RunTimes}
    {sources : Except AuditError (List SourceFile)} {writable : Bool} {before after : Database}
    {error : AuditError}
    (h : auditor.run info times sources writable before = .ok (.error error, after)) :
    sources = .error error := by
  cases sources with
  | error other =>
    cases h
    rfl
  | ok files =>
    obtain ⟨batch, _, h⟩ := bind_eq_ok_iff.mp h
    cases h

namespace Command

/-- A run is kept if the run store can be changed. -/
theorem run_runRecorded (project : ProjectContext) (auditor : Auditor) (info : RunInfo)
    (times : RunTimes) (sources : Except AuditError (List SourceFile)) (fs : FileSystem) :
    (runRecorded project auditor info times sources).run fs =
      match auditor.run info times sources (project.store.canSave fs) project.db with
      | .error fault => (.error (.broken fault), fs)
      | .ok (result, db) =>
        (.ok result, if project.store.canSave fs = true then project.store.save db fs else fs) := by
  rw [runRecorded, Session.run_bind, Session.run_get]
  dsimp only
  rw [Session.run_bind]
  rcases auditor.run info times sources (project.store.canSave fs) project.db with
    fault | ⟨result, db⟩
  · rfl
  · cases project.store.canSave fs <;> rfl

/-- It is not stopped but by breaking off. -/
theorem stopsIn_runRecorded (project : ProjectContext) (auditor : Auditor) (info : RunInfo)
    (times : RunTimes) (sources : Except AuditError (List SourceFile)) :
    Session.StopsIn Stop.AtWork (runRecorded project auditor info times sources) := by
  intro fs stop hstop
  rw [run_runRecorded] at hstop
  split at hstop
  · next fault _ =>
    cases hstop
    exact .inl ⟨fault, rfl⟩
  · cases hstop

/-- It fails only if the sources cannot be listed. -/
theorem run_runRecorded_eq_ok_error {project : ProjectContext} {auditor : Auditor} {info : RunInfo}
    {times : RunTimes} {sources : Except AuditError (List SourceFile)} {fs : FileSystem}
    {error : AuditError}
    (h : ((runRecorded project auditor info times sources).run fs).1 = .ok (.error error)) :
    sources = .error error := by
  rw [run_runRecorded] at h
  split at h
  · cases h
  · next result db hrun =>
    have hresult : result = .error error := Except.ok.inj h
    rw [hresult] at hrun
    exact Auditor.run_eq_ok_error hrun

/-- Writing a report that fails is no refusal. -/
theorem stopsIn_writeReport (batch : AuditBatch) (path : Path) :
    Session.StopsIn Stop.AtWork (writeReport [] batch path) := by
  rw [writeReport]
  refine Session.StopsIn.bind .get fun fs _ => ?_
  split
  · exact .of_run_ok fun _ => rfl
  · next error _ =>
    refine .throw (.inr ?_)
    change (Stop.failed (⟨"I/O error at " ++ path.text ++ ": " ++ error.message, .complete⟩ ::
      _)).OpensWith workOpenings
    rw [String.append_assoc, String.append_assoc]
    exact .of_append (by simp [workOpenings]) _ _ _

/-- With the output directory prepared, no run is refused. The target must have a parameter list. -/
theorem stopsIn_runInto (project : ProjectContext) (loaded : LoadedSpec) {target : Target}
    (sources output : Path) (times : RunTimes) (htarget : '(' ∈ target.signature.toList) :
    Session.StopsIn Stop.AtWork (runInto project loaded target sources output times) := by
  rw [runInto]
  -- The steps are gone through in their order; the first one succeeds by the shape of the target.
  apply Session.StopsIn.bind
  · rw [Auditor.ofRegistry_all_eq_ok_iff.mpr ⟨htarget, rfl⟩]
    exact .pure _
  intro auditor _
  apply Session.StopsIn.bind
  · exact .of_run_ok fun fs => rfl
  rintro files ⟨fs, hfiles⟩
  refine Session.StopsIn.bind (stopsIn_runRecorded _ _ _ _ _) ?_
  rintro result ⟨_, hresult⟩
  apply Session.StopsIn.bind
  · cases result with
    | ok value => exact .pure value
    | error error =>
      -- The run could not list its sources, and says where it looked for them.
      rw [run_runRecorded_eq_ok_error hresult] at hfiles
      cases SourceRoot.sources_eq_error (Except.ok.inj hfiles)
      exact .throw (.inr (.of_append (by simp [workOpenings]) _ _ _))
  rintro ⟨batch, runId⟩ _
  refine Session.StopsIn.bind (stopsIn_writeReport _ _) fun _ _ => ?_
  apply Session.StopsIn.bind
  · apply Session.StopsIn.change
    exact fun error => .inr (.of_append (by simp [workOpenings]) _ _ _)
  intro _ _
  apply Session.StopsIn.bind
  · apply Session.StopsIn.change
    exact fun error => .inr (.of_append (by simp [workOpenings]) _ _ _)
  · exact fun _ _ => .pure _

/-! ## Runs -/

variable {root file : String} {force : Bool} {times : RunTimes} {fs opened : FileSystem}
  {project : ProjectContext}

/-- A run stops where its project does not open. -/
theorem run_runAudit_of_stop {stop : Stop} {after : FileSystem}
    (h : (ProjectContext.openAt (absoluteRoot fs root)).run fs = (.error stop, after)) :
    (runAudit root file force times).run fs = (.error stop, after) := by
  rw [runAudit, Session.run_bind, Session.run_ask]
  dsimp only
  rw [Session.run_bind, h]

/-- In an open project the spec comes first. -/
theorem run_runAudit_of_opened
    (h : (ProjectContext.openAt (absoluteRoot fs root)).run fs = (.ok project, opened)) :
    (runAudit root file force times).run fs =
      match AuditSpec.load opened ⟨file⟩ with
      | .error error => (.error (.failed (RunRefusal.invalidSpec file error).causes), opened)
      | .ok loaded =>
        (do
          let target ← checkStandard loaded.spec.target
          let sources ← project.specSources loaded.spec
          let output ← project.prepareOutput loaded.spec.name force
          runInto project loaded target sources output times).run opened := by
  rw [runAudit, Session.run_bind, Session.run_ask]
  dsimp only
  rw [Session.run_bind, h]
  dsimp only
  rw [Session.run_bind, Session.run_get]
  dsimp only
  cases AuditSpec.load opened ⟨file⟩ <;> rfl

/-- With the spec loaded, its target is settled on, and the sources and the output directory come
next. -/
theorem run_runAudit_of_loaded {loaded : LoadedSpec}
    (h : (ProjectContext.openAt (absoluteRoot fs root)).run fs = (.ok project, opened))
    (hload : AuditSpec.load opened ⟨file⟩ = .ok loaded) :
    ∃ target, '(' ∈ target.signature.toList ∧
      (runAudit root file force times).run fs =
        if opened.pathExists (project.layout.resolve ⟨loaded.spec.sources⟩) = true then
          (do
            let output ← project.prepareOutput loaded.spec.name force
            runInto project loaded target (project.layout.resolve ⟨loaded.spec.sources⟩) output
              times).run opened
        else (.error (.failed (RunRefusal.missingSources
          (project.layout.resolve ⟨loaded.spec.sources⟩)).causes), opened) := by
  obtain ⟨_, _, _, target, htarget⟩ := loaded.spec.validate_eq_ok_iff.mp
    (AuditSpec.validate_of_load_eq_ok hload)
  refine ⟨target, (Target.resolve_signature htarget).2, ?_⟩
  rw [run_runAudit_of_opened h, hload]
  dsimp only
  rw [htarget, checkStandard, Session.run_bind, Session.run_pure]
  dsimp only
  rw [Session.run_bind, ProjectContext.run_specSources]
  cases opened.pathExists (project.layout.resolve ⟨loaded.spec.sources⟩) <;> rfl

/-- A run that has to be refused is refused. -/
theorem run_runAudit_of_refused {refusal : RunRefusal} {after : FileSystem}
    (h : RunRefused fs (absoluteRoot fs root) file force refusal after) :
    (runAudit root file force times).run fs = (.error (.failed refusal.causes), after) := by
  cases h with
  | unreadableConfig hread =>
    apply run_runAudit_of_stop
    rw [ProjectContext.run_openAt, hread]
  | invalidConfig hread hconfig =>
    apply run_runAudit_of_stop
    rw [ProjectContext.run_openAt, hread]
    dsimp only
    rw [hconfig]
  | invalidSpec hopen hload => rw [run_runAudit_of_opened hopen, hload]
  | missingSources hopen hload hsources =>
    obtain ⟨target, _, hrun⟩ := run_runAudit_of_loaded hopen hload
    rw [hrun, hsources, if_neg Bool.false_ne_true]
  | outputExists hopen hload hsources hexists hforce =>
    obtain ⟨target, _, hrun⟩ := run_runAudit_of_loaded hopen hload
    rw [hrun, hsources, if_pos rfl, hforce, Session.run_bind,
      ProjectContext.run_prepareOutput_of_exists _ _ (AuditSpec.isPlainName_of_load_eq_ok hload)
        hexists]

/-- A run that stops in an open project has to be refused, or it stops at work. -/
theorem refused_or_atWork_of_opened {stop : Stop}
    (hopen : (ProjectContext.openAt (absoluteRoot fs root)).run fs = (.ok project, opened))
    (hstop : ((runAudit root file force times).run fs).1 = .error stop) :
    (∃ refusal after, RunRefused fs (absoluteRoot fs root) file force refusal after) ∨
      stop.AtWork := by
  cases hload : AuditSpec.load opened ⟨file⟩ with
  | error error => exact .inl ⟨_, _, .invalidSpec hopen hload⟩
  | ok loaded =>
    obtain ⟨target, htarget, hrun⟩ := run_runAudit_of_loaded hopen hload
    rw [hrun] at hstop
    cases hsources : opened.pathExists (project.layout.resolve ⟨loaded.spec.sources⟩) with
    | false => exact .inl ⟨_, _, .missingSources hopen hload hsources⟩
    | true =>
      rw [hsources, if_pos rfl, Session.run_bind] at hstop
      by_cases hfree : opened.pathExists (project.layout.runOutput loaded.spec.name) = true →
        force = true
      · -- Nothing is left that is checked, so the stop is one at work.
        have hplain := AuditSpec.isPlainName_of_load_eq_ok hload
        rcases hprepare : (project.prepareOutput loaded.spec.name force).run opened with
          ⟨first | output, after⟩
        · rw [hprepare] at hstop
          cases hstop
          exact .inr (.inr (project.opensWith_of_prepareOutput opened hplain hfree
            (congrArg Prod.fst hprepare)))
        · rw [hprepare] at hstop
          exact .inr (stopsIn_runInto project loaded _ output times htarget after stop hstop)
      · rw [Classical.not_imp, Bool.not_eq_true] at hfree
        exact .inl ⟨_, _, .outputExists hopen hload hsources hfree.1 hfree.2⟩

/-- A run that stops has to be refused, or it stops at work. -/
theorem refused_or_atWork {stop : Stop}
    (hstop : ((runAudit root file force times).run fs).1 = .error stop) :
    (∃ refusal after, RunRefused fs (absoluteRoot fs root) file force refusal after) ∨
      stop.AtWork := by
  have hopen := ProjectContext.run_openAt (absoluteRoot fs root) fs
  cases hread : fs.readText (ProjectLayout.mk (absoluteRoot fs root)).configPath with
  | error error => exact .inl ⟨_, _, .unreadableConfig hread⟩
  | ok text =>
    cases hconfig : ProjectConfig.ofText? text with
    | none => exact .inl ⟨_, _, .invalidConfig hread hconfig⟩
    | some config =>
      rw [hread] at hopen
      dsimp only at hopen
      rw [hconfig] at hopen
      dsimp only at hopen
      split at hopen
      · exact refused_or_atWork_of_opened hopen hstop
      · rw [run_runAudit_of_stop hopen] at hstop
        cases hstop
        exact .inr (.inr (.of_append (by simp [workOpenings]) _ _ _))

end Command

end TokenAudit
