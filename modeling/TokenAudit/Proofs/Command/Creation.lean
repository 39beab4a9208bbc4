import TokenAudit.Proofs.Command.Refusals
import TokenAudit.Proofs.Files.Spelling
import TokenAudit.Proofs.Files.Writing
import TokenAudit.Proofs.Project.Configuration
import TokenAudit.Proofs.Project.StorePath
import TokenAudit.Proofs.Text.Offset

/-!
# Projects that have been created

Creating a project makes its directories, writes its configuration and opens its run store, which is
there afterwards. Opening the project reads the configuration, and opens the run store by the path
that the configuration keeps. That is the run store that was created: its path is the same, what was
written is read back, and opening a run store again comes to the same file.

## Main definitions

* `FileSystem.HasRoom`: a directory without a link under a name.
* `ProjectCreated`: a file system before and after a project has been created in it.

## Main results

* `OpenStore.eq_of_openAt_again`: a run store that opens again is the same.
* `OpenStore.openAt_again`: a run store in a directory opens again, unless a link is in its place.
* `ProjectCreated.run_openAt_eq_ok_iff`: opening a project that has been created.
* `Command.opened_project_has_created_store`: the run store of such a project.
-/

namespace TokenAudit

/-! ## Opening a run store again -/

theorem Path.isAbsolute_inside {dir : Path} (h : dir.isAbsolute = true) (name : String) :
    (Path.mk (dir.text ++ "/" ++ name)).isAbsolute = true := by
  rw [isAbsolute_iff_head?] at h ⊢
  simp [List.head?_append, h]

namespace FileSystem

variable {fs : FileSystem} {dir : Path} {base place : Location} {name : String}

theorem parts_append (text : String) {name : String} (h : '/' ∉ name.toList) :
    parts (text ++ "/" ++ name) = parts text ++ [name] := by
  have hchars : (text ++ "/" ++ name).toList = text.toList ++ '/' :: name.toList := by simp
  rw [parts, hchars, splitAt_append, splitAt_of_notMem h, List.map_append, List.map_singleton,
    String.ofList_toList, parts]

/-- A path leads to a directory, and no link is under a name in it. -/
structure HasRoom (fs : FileSystem) (dir : Path) (base : Location) (name : String) : Prop where
  leads : fs.Leads dir base
  get? : fs.get? base = some .dir
  noLink : ∀ target, fs.get? (base ++ [name]) ≠ some (.link target)

namespace HasRoom

/-- Writing a file leaves it so. -/
theorem set (h : fs.HasRoom dir base name) (htakes : fs.TakesFile place) (content : Content) :
    (fs.set place (.file content)).HasRoom dir base name where
  leads := htakes.leads_set content h.leads
  get? := htakes.get?_set h.get? (by simp)
  noLink := by
    intro target
    by_cases hat : base ++ [name] = place
    · simp [hat, fs.get?_set_self htakes.ne_nil]
    · rw [fs.get?_set_of_ne hat]
      exact h.noLink target

variable (h : fs.HasRoom dir base name) (habsolute : dir.isAbsolute = true) (hname : IsEntry name)
  (hshort : ¬255 < name.utf8ByteSize)

include h habsolute hname hshort

/-- Spelling out the path of a run store under the name comes to the name in the directory. -/
theorem spellFrom?_eq :
    fs.spellFrom? maxStoreLinks (startOf (dir.text ++ "/" ++ name) fs.current)
      (parts (dir.text ++ "/" ++ name)) = some (base ++ [name]) := by
  have hstart := Path.startOf_of_isAbsolute (Path.isAbsolute_inside habsolute name) fs.current
  have hleads := h.leads
  rw [Leads, Path.startOf_of_isAbsolute habsolute] at hleads
  obtain ⟨hreached, left, hspell⟩ :=
    Reached.root.spellFrom?_append (by decide : maxLinks ≤ maxStoreLinks) hleads h.get? [name]
  rw [hstart, parts_append _ hname.2.2.2, hspell]
  exact hreached.spellFrom?_singleton (isName_of_isEntry hname) hshort h.noLink left

end HasRoom

end FileSystem

namespace OpenStore

variable {fs after opened : FileSystem} {path : Path} {store again : OpenStore}
  {location : Location} {file : StoreFile}

/-- A run store that opens again is the one that was opened, and nothing changes. -/
theorem eq_of_openAt_again (habsolute : path.isAbsolute = true)
    (h : openAt fs path = (.ok store, after)) (hagain : openAt after path = (.ok again, opened)) :
    again = store ∧ opened = after := by
  obtain ⟨_, location, before, hfind, rfl, rfl⟩ := of_openAt_eq_ok habsolute h
  obtain ⟨_, location', before', hfind', rfl, rfl⟩ := of_openAt_eq_ok habsolute hagain
  have hfound := found_of_isAbsolute habsolute hfind
  have hfound' := found_of_isAbsolute habsolute hfind'
  have hlocation := hfound.takesFile.storeLocation?_set _ hfound'.storeLocation?
  rw [hfound.storeLocation?] at hlocation
  cases hlocation
  -- The file is there, with the database that was kept in it.
  rcases hfound'.content with ⟨content, hcontent, hholds⟩ | ⟨hmissing, _⟩
  · rw [fs.get?_set_self hfound.ne_nil] at hcontent
    cases hcontent
    cases hholds
    rw [before.upgraded_upgraded]
    exact ⟨rfl, fs.set_set⟩
  · rw [fs.get?_set_self hfound.ne_nil] at hmissing
    cases hmissing

/-- A run store in a directory opens again, unless a link is in its place. -/
theorem openAt_again {dir : Path} {base : Location} {name : String}
    (hroom : fs.HasRoom dir base name) (habsolute : dir.isAbsolute = true) (hname : IsEntry name)
    (hshort : ¬255 < name.utf8ByteSize)
    (h : openAt fs ⟨dir.text ++ "/" ++ name⟩ = (.ok store, after)) :
    openAt after ⟨dir.text ++ "/" ++ name⟩ = (.ok store, after) := by
  have hinside := Path.isAbsolute_inside habsolute name
  obtain ⟨haddress, location, before, hfind, rfl, rfl⟩ := of_openAt_eq_ok hinside h
  have hfound := found_of_isAbsolute hinside hfind
  have hroom' := hroom.set hfound.takesFile (.store before.upgraded)
  have hlocation := hfound.storeLocation?
  have hlocation' : (fs.set location (.file (.store before.upgraded))).storeLocation?
      (dir.text ++ "/" ++ name) = some location := by
    rw [← hlocation, FileSystem.storeLocation?, FileSystem.storeLocation?,
      hroom'.spellFrom?_eq habsolute hname hshort, hroom.spellFrom?_eq habsolute hname hshort]
  rw [openAt, haddress]
  dsimp only
  rw [(StoreAddress.parse?_of_isAbsolute hinside haddress).2, if_neg Bool.false_ne_true,
    hfound.find_set hlocation']
  exact openFile_again fs .create hfound.ne_nil before.version_upgraded

end OpenStore

/-! ## Creating a project -/

/-- The configuration of a new project. -/
def ProjectLayout.newConfig (layout : ProjectLayout) (name : String) : ProjectConfig :=
  { name, storePath := layout.relativeStorePath }

/-- The project has been created: its directories were made, its configuration was written, and its
run store was opened. -/
structure ProjectCreated (fs : FileSystem) (layout : ProjectLayout) (name : String)
    (before : FileSystem) (store : OpenStore) (after : FileSystem) : Prop where
  written : (layout.directories.foldl (fun fs dir => (fs.createDirAll dir).2) fs).writeText
    layout.configPath (layout.newConfig name).toJson.pretty = .ok before
  opened : OpenStore.openAt before layout.storePath = (.ok store, after)

/-- Directories are created one after the other. -/
theorem Session.of_run_forIn_createDirAll {text : Path → String} {dirs : List Path}
    {fs after : FileSystem}
    (h : (forIn dirs PUnit.unit fun dir _ => do
        Session.createDirAll (text dir) dir
        return .yield PUnit.unit : Session PUnit).run fs = (.ok PUnit.unit, after)) :
    after = dirs.foldl (fun fs dir => (fs.createDirAll dir).2) fs := by
  induction dirs generalizing fs with
  | nil =>
    cases h
    rfl
  | cons dir rest ih =>
    rw [List.forIn_cons] at h
    obtain ⟨step, between, hstep, hrest⟩ := (Session.run_bind_eq_ok_iff fs).mp h
    obtain ⟨_, created, hcreate, hyield⟩ := (Session.run_bind_eq_ok_iff fs).mp hstep
    cases hyield
    rw [Session.run_createDirAll] at hcreate
    cases congrArg Prod.snd hcreate
    exact ih hrest

/-- A command that has created a project has gone through all of this. -/
theorem Command.exists_projectCreated {fs after : FileSystem} {root : String} {name : Option String}
    {message : String} (h : (Command.initProject root name).run fs = (.ok message, after)) :
    ∃ before store, ProjectCreated fs ⟨absoluteRoot fs root⟩
      (name.getD (projectName (absoluteRoot fs root))) before store after := by
  rw [Command.initProject, Session.run_bind, Session.run_ask] at h
  obtain ⟨_, dirs, hdirs, h⟩ := (Session.run_bind_eq_ok_iff fs).mp h
  obtain ⟨_, before, hwrite, h⟩ := (Session.run_bind_eq_ok_iff dirs).mp h
  obtain ⟨store, opened, hopen, h⟩ := (Session.run_bind_eq_ok_iff before).mp h
  have hafter : opened = after := congrArg Prod.snd h
  rw [Session.of_run_forIn_createDirAll hdirs, Session.run_change] at hwrite
  refine ⟨before, store, ?_, hafter ▸ OpenStore.run_openIn_eq_ok_iff.mp hopen⟩
  split at hwrite
  · next written hok => exact hok.trans (congrArg Except.ok (Prod.mk.inj hwrite).2)
  · cases (Prod.mk.inj hwrite).1

/-! ## Opening the project -/

/-- A configuration is no database. -/
theorem ProjectConfig.storeFile_pretty (config : ProjectConfig) :
    (Content.ofText config.toJson.pretty).storeFile = .foreign := by
  have hlength : 1 < config.toJson.pretty.toList.length := by
    rw [toJson, Json.pretty, Json.toList_prettyAt_obj 0 (by simp)]
    simp
  have hsize : 1 < config.toJson.pretty.utf8ByteSize := by
    rw [← Text.byteLength_toList]
    exact Nat.lt_of_lt_of_le hlength (Text.length_le_byteLength _)
  rw [Content.ofText, Content.storeFile, StoreFile.ofBytes]
  exact if_neg (Nat.not_le_of_lt hsize)

theorem ProjectLayout.isAbsolute_storePath {layout : ProjectLayout}
    (hroot : layout.root.isAbsolute = true) : layout.storePath.isAbsolute = true :=
  Path.isAbsolute_join (Path.isAbsolute_join hroot _) _

namespace ProjectCreated

variable {fs before after opened : FileSystem} {layout : ProjectLayout} {name : String}
  {store : OpenStore} (h : ProjectCreated fs layout name before store after)
  (hroot : layout.root.isAbsolute = true)

include h hroot

/-- Opening the run store leaves the configuration alone, since it is no database. -/
theorem resolve_configPath :
    ∃ place, before.resolve true layout.configPath = .ok (.found place) ∧
      after.resolve true layout.configPath = .ok (.found place) ∧
      after.get? place = some (.file (.ofText (layout.newConfig name).toJson.pretty)) := by
  obtain ⟨place, htakes, hbefore, hresolve⟩ := FileSystem.of_writeContent_eq_ok h.written
  have hplace : before.get? place =
      some (.file (.ofText (layout.newConfig name).toJson.pretty)) := by
    rw [hbefore]
    exact FileSystem.get?_set_self _ htakes.ne_nil
  have habsolute := ProjectLayout.isAbsolute_storePath hroot
  obtain ⟨_, location, old, hfind, _, rfl⟩ := OpenStore.of_openAt_eq_ok habsolute h.opened
  have hfound := OpenStore.found_of_isAbsolute habsolute hfind
  refine ⟨place, hresolve, hfound.takesFile.resolve_set _ hresolve, ?_⟩
  rw [before.get?_set_of_ne, hplace]
  rintro rfl
  rcases hfound.content with ⟨content, hcontent, hholds⟩ | ⟨hmissing, _⟩
  · rw [hplace] at hcontent
    cases hcontent
    rw [ProjectConfig.storeFile_pretty] at hholds
    cases hholds
  · rw [hplace] at hmissing
    cases hmissing

/-- Opening the project reads the configuration that was written, and opens the run store by the
path by which it was created. -/
theorem run_openAt_eq_ok_iff {project : ProjectContext} :
    (ProjectContext.openAt layout.root).run after = (.ok project, opened) ↔
      ∃ again, OpenStore.openAt after layout.storePath = (.ok again, opened) ∧
        project = ⟨layout, layout.newConfig name, layout.storePath, again⟩ := by
  obtain ⟨place, _, hresolve, hplace⟩ := h.resolve_configPath hroot
  have hread : after.readText (ProjectLayout.mk layout.root).configPath =
      .ok (layout.newConfig name).toJson.pretty := FileSystem.readText_of_resolve hresolve hplace
  have hpath : (ProjectLayout.mk layout.root).resolve ⟨(layout.newConfig name).storePath⟩ =
      layout.storePath := layout.resolve_relativeStorePath
  rw [ProjectContext.run_openAt, hread]
  dsimp only
  rw [ProjectConfig.ofText?_pretty]
  dsimp only
  rw [hpath]
  rcases OpenStore.openAt after layout.storePath with ⟨error | again, kept⟩
  · constructor
    · intro hrun
      cases (Prod.mk.inj hrun).1
    · rintro ⟨_, hopen, _⟩
      cases hopen
  · constructor
    · intro hrun
      obtain ⟨hproject, rfl⟩ := Prod.mk.inj hrun
      exact ⟨again, rfl, (Except.ok.inj hproject).symm⟩
    · rintro ⟨_, hopen, rfl⟩
      cases hopen
      rfl

/-- The run store opens again, unless a link is in its place. -/
theorem openAt_storePath (hlink : ∀ base target, after.Leads layout.metaDir base →
      after.get? (base ++ ["project.db"]) ≠ some (.link target)) :
    OpenStore.openAt after layout.storePath = (.ok store, after) := by
  have hmeta : layout.metaDir.isAbsolute = true := Path.isAbsolute_join hroot _
  have hconfig : layout.configPath = ⟨layout.metaDir.text ++ "/" ++ "project.json"⟩ :=
    layout.child_metaDir (by decide)
  have hpath : layout.storePath = ⟨layout.metaDir.text ++ "/" ++ "project.db"⟩ :=
    layout.child_metaDir (by decide)
  -- The configuration is in the directory, so the directory is there.
  obtain ⟨place, hresolve, _, _⟩ := h.resolve_configPath hroot
  have hfound := FileSystem.resolveFrom_of_resolve hresolve
  rw [hconfig, Path.startOf_of_isAbsolute (Path.isAbsolute_inside hmeta _),
    FileSystem.parts_append _ (by decide)] at hfound
  obtain ⟨base, hbase, hdir⟩ := FileSystem.exists_dir_of_append hfound
  have hleads : before.Leads layout.metaDir base := by
    rwa [FileSystem.Leads, Path.startOf_of_isAbsolute hmeta]
  have hopened := h.opened
  rw [hpath] at hopened ⊢
  obtain ⟨_, location, old, hfind, _, hafter⟩ :=
    OpenStore.of_openAt_eq_ok (Path.isAbsolute_inside hmeta _) hopened
  have htakes := (OpenStore.found_of_isAbsolute (Path.isAbsolute_inside hmeta _) hfind).takesFile
  have hroom : before.HasRoom layout.metaDir base "project.db" := by
    refine ⟨hleads, hdir, fun target htarget => ?_⟩
    rw [hafter] at hlink
    exact hlink base target (htakes.leads_set _ hleads) (htakes.get?_set htarget (by simp))
  exact OpenStore.openAt_again hroom hmeta (by decide) (by decide) hopened

/-- The project opens with the run store that was created, if it opens, and it does unless a link is
in place of the run store. -/
theorem opens_created_store :
    (∀ project opened, (ProjectContext.openAt layout.root).run after = (.ok project, opened) →
      project.storePath = layout.storePath ∧ project.store = store ∧ opened = after) ∧
    ((∀ base target, after.Leads layout.metaDir base →
        after.get? (base ++ ["project.db"]) ≠ some (.link target)) →
      ∃ project, (ProjectContext.openAt layout.root).run after = (.ok project, after)) := by
  have habsolute := ProjectLayout.isAbsolute_storePath hroot
  refine ⟨fun project opened hopen => ?_, fun hlink => ?_⟩
  · obtain ⟨again, hagain, rfl⟩ := (h.run_openAt_eq_ok_iff hroot).mp hopen
    exact ⟨rfl, OpenStore.eq_of_openAt_again habsolute h.opened hagain⟩
  · have hagain := h.openAt_storePath hroot hlink
    exact ⟨_, (h.run_openAt_eq_ok_iff hroot).mpr ⟨store, hagain, rfl⟩⟩

end ProjectCreated

/-- The path of the run store that a configuration keeps leads from every root, however it is
written, step by step to where the run store is. So a project that has been created opens with the
run store that was created for it and never with another one, and it does open unless a link is in
place of the run store. -/
theorem Command.opened_project_has_created_store :
    (∀ layout : ProjectLayout,
      (layout.resolve ⟨layout.relativeStorePath⟩).components = layout.storePath.components ∧
      layout.storePath.components =
        layout.root.components ++ [.normal ".conform", .normal "project.db"]) ∧
    ∀ (fs after : FileSystem) (root : String) (name : Option String) (message : String),
      (Command.initProject root name).run fs = (.ok message, after) →
      let layout : ProjectLayout := ⟨absoluteRoot fs root⟩
      ∃ before created,
        ProjectCreated fs layout (name.getD (projectName layout.root)) before created after ∧
        (∀ project opened, (ProjectContext.openAt layout.root).run after = (.ok project, opened) →
          project.storePath = layout.storePath ∧ project.store = created ∧ opened = after) ∧
        ((∀ base target, after.Leads layout.metaDir base →
            after.get? (base ++ ["project.db"]) ≠ some (.link target)) →
          ∃ project, (ProjectContext.openAt layout.root).run after = (.ok project, after)) := by
  refine ⟨fun layout => ⟨by rw [layout.resolve_relativeStorePath], layout.components_storePath⟩, ?_⟩
  intro fs after root name message hrun
  obtain ⟨before, created, hcreated⟩ := Command.exists_projectCreated hrun
  have hroot := Path.isAbsolute_absoluteRoot fs root
  exact ⟨before, created, hcreated, hcreated.opens_created_store hroot⟩

/-- One empty directory. -/
def workFiles : FileSystem :=
  ⟨[(["w"], .dir)], ["w"]⟩

theorem Command.run_initProject_workFiles :
    let run := (Command.initProject "./p//" none).run workFiles
    run.1.isOk = true ∧
    (run.2.resolveFrom true FileSystem.maxLinks [] (FileSystem.parts "/w/./p//.conform")).toOption =
      some (.found ["w", "p", ".conform"]) ∧
    run.2.get? ["w", "p", ".conform", "project.db"] =
      some (.file (.store ⟨2, some ⟨[], 0, true⟩, some ⟨[], 0, true⟩⟩)) := by
  decide +kernel

/-- A project that is created there by a relative path with a dot and separators at its end opens
with its run store. -/
theorem Command.opened_project_has_created_store_relative :
    ∃ message after project,
      (Command.initProject "./p//" none).run workFiles = (.ok message, after) ∧
      (ProjectContext.openAt ⟨"/w/./p//"⟩).run after = (.ok project, after) ∧
      project.storePath.components =
        [.root, .normal "w", .normal "p", .normal ".conform", .normal "project.db"] := by
  obtain ⟨hok, hleads, hstore⟩ := Command.run_initProject_workFiles
  rcases hrun : (Command.initProject "./p//" none).run workFiles with ⟨stop | message, after⟩
  · rw [hrun] at hok
    cases hok
  · rw [hrun] at hleads hstore
    have hroot : absoluteRoot workFiles "./p//" = ⟨"/w/./p//"⟩ := by decide +kernel
    have hmeta : (ProjectLayout.mk ⟨"/w/./p//"⟩).metaDir = ⟨"/w/./p//.conform"⟩ := by
      decide +kernel
    obtain ⟨hpaths, hopens⟩ := Command.opened_project_has_created_store
    obtain ⟨before, created, _, hsame, hopens⟩ := hopens _ _ _ _ _ hrun
    rw [hroot] at hsame hopens
    obtain ⟨project, hproject⟩ := hopens fun base target hbase hlink => by
      rw [hmeta, FileSystem.Leads, Path.startOf_of_isAbsolute (by decide)] at hbase
      rw [hbase] at hleads
      cases hleads
      cases hstore.symm.trans hlink
    refine ⟨message, after, project, rfl, hproject, ?_⟩
    rw [(hsame project after hproject).1, (hpaths _).2]
    decide +kernel

end TokenAudit
