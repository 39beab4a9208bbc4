import TokenAudit.Project.Context
import TokenAudit.Proofs.Files.Directories
import TokenAudit.Proofs.Session

/-!
# The output directory of an audit

The output directory of an audit is prepared: it is created, and what was there before is removed if
that is wanted. The name of the audit is one plain step, so the directory lies in the project's
directory of runs, and nothing outside of it changes but directories above it that were missing.

## Main results

* `ProjectLayout.components_runOutput`: the steps to the output directory of an audit.
* `ProjectContext.run_prepareOutput`: preparing the output directory, step by step.
* `ProjectContext.prepareOutput_changes_output`: what preparing the output directory changes.
-/

namespace TokenAudit

namespace ProjectLayout

variable (layout : ProjectLayout) {name : String}

/-- The steps to the directory of the outputs of runs. -/
theorem components_runsDir :
    layout.runsDir.components = layout.root.components ++ [.normal "outputs", .normal "runs"] := by
  rw [runsDir, outputsDir, Path.components_child _ (by decide), Path.components_child _ (by decide),
    List.append_assoc]
  rfl

/-- The output directory of an audit is one step below. -/
theorem components_runOutput (h : isPlainName name = true) :
    (layout.runOutput name).components = layout.runsDir.components ++ [.normal name] :=
  Path.components_child _ (isEntry_of_isPlainName h)

end ProjectLayout

namespace ProjectContext

open FileSystem

variable (project : ProjectContext) (audit : String) (force : Bool) (fs : FileSystem)

/-- What preparing the output directory can come to: it stops before anything has changed, or it
creates the directory, where there is nothing or after it has removed what was there. -/
theorem run_prepareOutput_cases :
    let dir := project.layout.runOutput audit
    (∃ stop, (project.prepareOutput audit force).run fs = (.error stop, fs)) ∨
    isPlainName audit = true ∧ ∃ start,
      (start = fs ∧ fs.pathExists dir = false ∨
        force = true ∧ fs.pathExists dir = true ∧ fs.removeDirAll dir = .ok start) ∧
      (project.prepareOutput audit force).run fs =
        (((start.createDirAll dir).1.mapError
          (Session.stopOf ("Failed to create audit output dir " ++ dir.text))).map fun _ => dir,
          (start.createDirAll dir).2) := by
  intro dir
  have hcreate (start : FileSystem) :
      (do Session.createDirAll ("Failed to create audit output dir " ++ dir.text) dir
          return dir : Session Path).run start =
        (((start.createDirAll dir).1.mapError
          (Session.stopOf ("Failed to create audit output dir " ++ dir.text))).map fun _ => dir,
          (start.createDirAll dir).2) := by
    rw [Session.run_bind, Session.run_createDirAll]
    cases (start.createDirAll dir).1 <;> rfl
  unfold prepareOutput
  cases hplain : isPlainName audit with
  | false =>
    rw [Bool.not_false, if_pos rfl, Session.run_bind, Session.run_fail]
    exact .inl ⟨_, rfl⟩
  | true =>
    rw [Bool.not_true, if_neg (by decide), Session.run_bind, Session.run_get]
    dsimp only
    cases hexists : fs.pathExists dir with
    | false =>
      refine .inr ⟨rfl, fs, .inl ⟨rfl, rfl⟩, ?_⟩
      exact hcreate fs
    | true =>
      cases force with
      | false =>
        rw [if_pos rfl, Bool.not_false, if_pos rfl, Session.run_bind, Session.run_fail]
        exact .inl ⟨_, rfl⟩
      | true =>
        rw [if_pos rfl, Bool.not_true, if_neg (by decide), Session.run_bind, Session.run_change]
        cases hremove : fs.removeDirAll dir with
        | error error => exact .inl ⟨_, rfl⟩
        | ok start => exact .inr ⟨rfl, start, .inr ⟨rfl, rfl, rfl⟩, hcreate start⟩

/-- Plain names are the names that are not empty, do not start with a dot and hold no separator of
any platform. The output directory of an audit with a plain name is one step below the directory of
runs, and a different one for each name. Preparing it, in a project without links, stops before
anything has changed, or the name is plain and nothing changes but this directory and directories
above it that were missing. A directory that is there is touched only if that is wanted. On success
the directory is there, and no file of what was there is left. -/
theorem prepareOutput_changes_output :
    (∀ name, isPlainName name = true ↔ name ≠ "" ∧ name.toList.head? ≠ some '.' ∧
      '/' ∉ name.toList ∧ '\\' ∉ name.toList) ∧
    (∀ (layout : ProjectLayout) (name : String), isPlainName name = true →
      (layout.runOutput name).components = layout.runsDir.components ++ [.normal name]) ∧
    (∀ (layout : ProjectLayout) (name other : String), isPlainName name = true →
      isPlainName other = true → name ≠ other →
      (layout.runOutput name).components ≠ (layout.runOutput other).components) ∧
    ∀ (project : ProjectContext) (audit : String) (force : Bool) (fs : FileSystem)
      (base : Location),
      fs.Leads project.layout.root base → fs.LinkFree base →
      let dir := project.layout.runOutput audit
      let target := base ++ ["outputs", "runs", audit]
      let result := ((project.prepareOutput audit force).run fs).1
      let after := ((project.prepareOutput audit force).run fs).2
      (∃ stop, result = .error stop ∧ after = fs) ∨
      isPlainName audit = true ∧ (fs.pathExists dir = true → force = true) ∧
        Changes target fs after ∧
        ∀ path, result = .ok path → path = dir ∧ after.get? target = some .dir ∧
          (fs.pathExists dir = true → NoFiles after target) := by
  refine ⟨isPlainName_iff, fun layout name => layout.components_runOutput, ?_, ?_⟩
  · intro layout name other hname hother hne heq
    rw [layout.components_runOutput hname, layout.components_runOutput hother,
      List.append_cancel_left_eq] at heq
    exact hne (by simpa using heq)
  · intro project audit force fs base hroot hfree dir target result after
    rcases project.run_prepareOutput_cases audit force fs with
      ⟨stop, hstop⟩ | ⟨hplain, start, hstart, hrun⟩
    · exact .inl ⟨stop, congrArg Prod.fst hstop, congrArg Prod.snd hstop⟩
    · have hdir : dir.components =
          project.layout.root.components ++ ["outputs", "runs", audit].map .normal := by
        rw [project.layout.components_runOutput hplain, project.layout.components_runsDir,
          List.append_assoc]
        rfl
      have site : Site fs project.layout.root base ["outputs", "runs", audit] :=
        ⟨hroot, hfree, by simpa using ⟨by decide, by decide, isEntry_of_isPlainName hplain⟩,
          by simp⟩
      have hne : target ≠ [] := by simp [target]
      have hbefore : Changes target fs start ∧ (fs.pathExists dir = true → force = true ∧
          NoFiles start target) := by
        rcases hstart with ⟨rfl, hmissing⟩ | ⟨hforce, _, hremove⟩
        · refine ⟨.refl target _, fun hexists => ?_⟩
          rw [hmissing] at hexists
          cases hexists
        · rw [site.eq_erase_of_removeDirAll hdir hremove]
          exact ⟨.erase fs hne, fun _ => ⟨hforce, noFiles_erase fs hne⟩⟩
      obtain ⟨hadds, hthere⟩ := site.createDirAll hbefore.1 hdir
      have hafter : after = (start.createDirAll dir).2 := congrArg Prod.snd hrun
      have hresult : result = ((start.createDirAll dir).1.mapError _).map fun _ => dir :=
        congrArg Prod.fst hrun
      rw [← hafter] at hadds hthere
      refine .inr ⟨hplain, fun hexists => (hbefore.2 hexists).1, hbefore.1.trans_adds hadds, ?_⟩
      intro path hpath
      rw [hresult] at hpath
      cases hcreate : (start.createDirAll dir).1 with
      | error error =>
        rw [hcreate] at hpath
        cases hpath
      | ok done =>
        rw [hcreate] at hpath
        cases hpath
        exact ⟨rfl, hthere hcreate, fun hexists => (hbefore.2 hexists).2.trans_adds hadds⟩

/-- A project in a directory that has the output of an audit and a report. -/
def nightlyProject : ProjectContext where
  layout := ⟨⟨"p"⟩⟩
  config := { name := "p", storePath := ".conform/project.db" }
  storePath := ⟨"p/.conform/project.db"⟩
  store := ⟨none, true, .empty⟩

/-- The files of the project. -/
def nightlyFiles : FileSystem where
  nodes := [(["p"], .dir), (["p", "outputs"], .dir), (["p", "outputs", "runs"], .dir),
    (["p", "outputs", "runs", "nightly"], .dir),
    (["p", "outputs", "runs", "nightly", "old.json"], .file (.bytes .empty)),
    (["p", "reports"], .dir), (["p", "reports", "r.json"], .file (.bytes .empty))]
  current := []

/-- The output is replaced, and the report stays. -/
theorem prepareOutput_changes_output_forced :
    let after := ((nightlyProject.prepareOutput "nightly" true).run nightlyFiles).2
    nightlyFiles.Leads nightlyProject.layout.root ["p"] ∧ nightlyFiles.LinkFree ["p"] ∧
    after.get? ["p", "outputs", "runs", "nightly"] = some .dir ∧
    NoFiles after ["p", "outputs", "runs", "nightly"] ∧
    after.get? ["p", "reports", "r.json"] = some (.file (.bytes .empty)) := by
  intro after
  have hroot : nightlyFiles.Leads nightlyProject.layout.root ["p"] := rfl
  have hfree : nightlyFiles.LinkFree ["p"] := by
    intro place hplace target hlink
    rw [get?_of_ne_nil _ (by rintro rfl; cases List.prefix_nil.mp hplace)] at hlink
    obtain ⟨before, later, hnodes, _⟩ := List.lookup_eq_some_iff.mp hlink
    have hmem : (place, Node.link target) ∈ nightlyFiles.nodes := by simp [hnodes]
    simp [nightlyFiles] at hmem
  have hok : ((nightlyProject.prepareOutput "nightly" true).run nightlyFiles).1.toOption =
      some ⟨"p/outputs/runs/nightly"⟩ := by decide +kernel
  have hexists : nightlyFiles.pathExists (nightlyProject.layout.runOutput "nightly") = true := by
    decide +kernel
  refine ⟨hroot, hfree, ?_⟩
  rcases prepareOutput_changes_output.2.2.2 nightlyProject "nightly" true nightlyFiles ["p"] hroot
    hfree with ⟨stop, hstop, _⟩ | ⟨_, _, hchanges, hresult⟩
  · rw [hstop] at hok
    cases hok
  · cases hrun : ((nightlyProject.prepareOutput "nightly" true).run nightlyFiles).1 with
    | error stop =>
      rw [hrun] at hok
      cases hok
    | ok path =>
      obtain ⟨_, hdir, hfiles⟩ := hresult path hrun
      refine ⟨hdir, hfiles hexists, ?_⟩
      rcases hchanges.get? ["p", "reports", "r.json"] with hsame | ⟨hbelow, _⟩ | ⟨habove, _⟩
      · exact hsame
      · simp at hbelow
      · simp at habove

end ProjectContext

end TokenAudit
