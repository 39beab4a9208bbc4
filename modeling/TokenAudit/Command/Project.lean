import TokenAudit.Command.Selectors
import TokenAudit.Project.Context

/-!
# Commands about projects
-/

namespace TokenAudit

/-- The version of the tool. -/
def toolVersion : String := "0.1.0"

/-- The name of a project that is not given one: the last step of its root. -/
def projectName (root : Path) : String :=
  root.fileName?.getD "unnamed-project"

/-- The root that a command names: an absolute path without links if it exists. -/
def absoluteRoot (fs : FileSystem) (root : String) : Path :=
  let path : Path := ⟨root⟩
  if path.components == [.current] then fs.currentPath
  else
    match fs.canonicalize path with
    | .ok found => found
    | .error _ => fs.currentPath.join path

/-- What is known about a spec file of a project. -/
structure SpecSummary where
  /-- The name of the audit, or of the file if the spec cannot be used. -/
  name : String
  /-- The path of the file. -/
  path : String
  /-- The extension of the file. -/
  format : String
  /-- The name of the standard. -/
  standard : Option String
  /-- The signature. -/
  signature : Option String
  /-- Why the spec cannot be used. -/
  error : Option String
  deriving Repr, BEq, DecidableEq

namespace SpecSummary

/-- The summary of a file in a directory of specs, if it is one. -/
def ofNamed? (fs : FileSystem) (dir : Path) (entry : String × Node) : Option SpecSummary := do
  let (name, node) := entry
  let .file _ := node | none
  let format := (Path.extensionOf? name).getD ""
  if format ∉ ["yaml", "yml", "json"] then none
  let path := dir.child name
  match AuditSpec.load fs path with
  | .ok loaded =>
    return ⟨loaded.spec.name, path.text, format, loaded.spec.standard, loaded.spec.signature, none⟩
  | .error error => return ⟨Path.stemOf name, path.text, format, none, none, some error.message⟩

/-- The specs in a directory, by their names. -/
def collect (fs : FileSystem) (dir : Path) : List SpecSummary :=
  match fs.node dir, fs.locate true dir with
  | .ok .dir, .ok location =>
    ((fs.entries location).filterMap (ofNamed? fs dir)).mergeSort fun a b => !(b.name < a.name)
  | _, _ => []

/-- The summary as an object. -/
def toJson (spec : SpecSummary) : Json :=
  .obj ([("name", .str spec.name), ("path", .str spec.path), ("format", .str spec.format),
    ("standard", .ofText? spec.standard), ("signature", .ofText? spec.signature)] ++
    (spec.error.map fun error => ("error", Json.str error)).toList)

/-- The line about a spec. -/
def line (spec : SpecSummary) : String :=
  match spec.error with
  | some error => "- " ++ spec.name ++ " (" ++ spec.path ++ ") INVALID: " ++ error
  | none =>
    "- " ++ spec.name ++ " [" ++ spec.standard.getD "-" ++ "] " ++ spec.signature.getD ""

end SpecSummary

/-- The directories of a project with what they are called. -/
def ProjectLayout.labelled (layout : ProjectLayout) : List (String × Path) :=
  [("Meta dir (.conform)", layout.metaDir), ("Audits dir", layout.auditsDir),
    ("Reports dir", layout.reportsDir), ("Outputs dir", layout.outputsDir),
    ("Runs dir", layout.runsDir)]

namespace Command

/-- Creates a project: its directories, its configuration and its run store. -/
def initProject (root : String) (name : Option String) : Session String := do
  let rootPath ← Session.ask (absoluteRoot · root)
  let layout : ProjectLayout := ⟨rootPath⟩
  let name := name.getD (projectName rootPath)
  for dir in layout.directories do
    Session.createDirAll ("Failed to create directory: " ++ dir.text) dir
  let config : ProjectConfig := { name, storePath := layout.relativeStorePath }
  let configPath := layout.configPath
  Session.change ("Failed to write project config: " ++ configPath.text)
    (·.writeText configPath config.toJson.pretty)
  let storePath := layout.storePath
  let _ ← OpenStore.openIn ("Failed to initialize project database at " ++ storePath.text) storePath
  return unlines ["Initialized sol-conform project:",
    "  Name: " ++ name,
    "  Root: " ++ rootPath.text,
    "  Config: " ++ configPath.text,
    "  DB path (relative): " ++ config.storePath,
    "  Audits dir: " ++ layout.auditsDir.text,
    "  Reports dir: " ++ layout.reportsDir.text,
    "  Outputs dir: " ++ layout.outputsDir.text]

/-- The document about a project. -/
def infoJson (project : ProjectContext) (dirs : List (String × Path × Bool))
    (specs : List SpecSummary) (runs : Nat) : Json :=
  let config := project.config
  .obj [("tool_version", .str toolVersion), ("name", .str config.name),
    ("root", .str project.layout.root.text), ("config_file", .str project.layout.configPath.text),
    ("config_version", .str config.configVersion), ("db_path", .str config.storePath),
    ("default_profile", .ofText? (config.defaultProfile.map (·.name))),
    ("parallel", .bool config.parallel), ("extensions", .arr (config.extensions.map .str)),
    ("directories", .arr (dirs.map fun (label, path, present) =>
      .obj [("label", .str label), ("path", .str path.text), ("exists", .bool present)])),
    ("audit_specs", .arr (specs.map (·.toJson))), ("audit_runs", .ofNat runs)]

/-- The lines about a project. -/
def infoLines (project : ProjectContext) (dirs : List (String × Path × Bool))
    (specs : List SpecSummary) (runs : Nat) : List String :=
  let config := project.config
  ["sol-conform Project Info",
    "========================",
    "Tool version: " ++ toolVersion,
    "Name: " ++ config.name,
    "Root: " ++ project.layout.root.text,
    "Config file: " ++ project.layout.configPath.text,
    "Config version: " ++ config.configVersion,
    "DB path (config): " ++ config.storePath] ++
    (config.defaultProfile.map fun profile => "Default profile: " ++ profile.name).toList ++
    ["Parallel: " ++ (if config.parallel then "true" else "false"),
      "Extensions: " ++ ", ".intercalate config.extensions, "", "Directories:"] ++
    (dirs.map fun (label, path, present) =>
      "- " ++ label ++ ": " ++ (if present then "OK" else "MISSING") ++ " (" ++ path.text ++ ")") ++
    ["", "Audit specs: " ++ toString specs.length] ++ specs.map (·.line) ++
    ["Audit runs recorded: " ++ toString runs]

/-- Shows what is known about a project. -/
def projectInfo (root : String) (json : Bool) : Session String := do
  let project ← ProjectContext.openAt (← Session.ask (absoluteRoot · root))
  let runs ← Session.checkStore "Failed to count audit runs" project.db.countRuns
  let fs ← get
  let specs := SpecSummary.collect fs project.layout.auditsDir
  let dirs := project.layout.labelled.map fun (label, path) => (label, path, fs.isDir path)
  if json then return document (infoJson project dirs specs runs)
  return unlines (infoLines project dirs specs runs)

end Command

end TokenAudit
