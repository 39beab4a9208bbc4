import TokenAudit.Command.Invocation

/-!
# What a request looks at

A request is carried out on a file system that need not be complete: it is enough that everything on
the way to certain places, and everything below them, is there. Which places these are depends in
part on what the files say that are found on the way.
-/

namespace TokenAudit

/-- The configuration of a project, if it can be read. -/
def ProjectLayout.config? (layout : ProjectLayout) (fs : FileSystem) : Option ProjectConfig :=
  ((ProjectConfig.load layout).run fs).1.toOption

/-- The places where a run store may be: its path, and what the path stands for as far as the files
tell. -/
def OpenStore.reach (fs : FileSystem) (path : Path) : List Path :=
  match StoreAddress.parse? path.text with
  | some address =>
    if address.isPrivate then []
    else ⟨address.path⟩ :: (fs.storeLocation? address.path).toList.map FileSystem.pathOf
  | none => []

/-- The places of a project that every command about it looks at. -/
def ProjectLayout.reach (layout : ProjectLayout) (fs : FileSystem) : List Path :=
  layout.directories ++
    (layout.config? fs).toList.flatMap fun config =>
      OpenStore.reach fs (layout.resolve ⟨config.storePath⟩)

/-- The places that a spec names. -/
def AuditSpec.reach (spec : AuditSpec) (layout : ProjectLayout) : List Path :=
  [layout.resolve ⟨spec.sources⟩, layout.runOutput spec.name]

namespace Request

/-- The places that a request looks at, as far as the files tell. -/
def reach (fs : FileSystem) : Request → List Path
  | .initProject root _ | .projectInfo root _ | .listRuns root _ _ | .showRun root _ _ =>
    ProjectLayout.reach ⟨absoluteRoot fs root⟩ fs
  | .runAudit root file _ =>
    let layout : ProjectLayout := ⟨absoluteRoot fs root⟩
    layout.reach fs ++ ⟨file⟩ ::
      match AuditSpec.load fs ⟨file⟩ with
      | .ok loaded => loaded.spec.reach layout
      | .error _ => []
  | .analyze path options => ⟨path⟩ :: options.out.toList.map Path.mk
  | .scanBytecode _ file _ => file.toList.map Path.mk
  | .standards _ | .selector _ _ => []

end Request

/-- The report on a session that stopped early. -/
def Stop.lines : Stop → List String
  | .failed [] => []
  | .failed [cause] => ["Error: " ++ cause.text]
  | .failed [cause, below] => ["Error: " ++ cause.text, "", "Caused by:", "    " ++ below.text]
  | .failed (cause :: below) =>
    ["Error: " ++ cause.text, "", "Caused by:"] ++
      below.zipIdx.map fun (cause, i) => "    " ++ toString i ++ ": " ++ cause.text
  | .broken _ => ["Error: an offset lies inside a character"]

end TokenAudit
