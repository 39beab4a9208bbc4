import TokenAudit.Files.OpenStore
import TokenAudit.Files.Sources
import TokenAudit.Hash.Sha256
import TokenAudit.Project.Config
import TokenAudit.Project.Layout

/-!
# Open projects

An open project knows its places, its configuration and its run store.
-/

namespace TokenAudit

/-- A spec together with the hash of the bytes that it was read from. -/
structure LoadedSpec where
  /-- The spec. -/
  spec : AuditSpec
  /-- The hash. -/
  hash : String
  deriving Repr, BEq, DecidableEq

namespace AuditSpec

/-- The format of a spec file, which its extension tells. -/
def formatOf (path : Path) : SpecFormat :=
  if path.extension?.any (Text.lower · == "json") then .json else .yaml

/-- Reads and checks a spec file. -/
def load (fs : FileSystem) (path : Path) : Except SpecError LoadedSpec := do
  let content ← (fs.readContent path).mapError fun error => .read path.text error.message
  let .bytes data := content | throw (.malformed (formatOf path))
  let spec ← parse (formatOf path) data
  spec.validate
  return ⟨spec, Hash.sha256Hex data.toList⟩

end AuditSpec

namespace ProjectConfig

/-- Reads the configuration of a project. -/
def load (layout : ProjectLayout) : Session ProjectConfig := do
  let path := layout.configPath
  let text ← Session.read ("Failed to read project config at " ++ path.text) (·.readText path)
  match ofText? text with
  | some config => return config
  | none => Session.fail ("Failed to parse project config at " ++ path.text)

end ProjectConfig

/-- An open project. -/
structure ProjectContext where
  /-- Its places. -/
  layout : ProjectLayout
  /-- Its configuration. -/
  config : ProjectConfig
  /-- The path of its run store. -/
  storePath : Path
  /-- Its run store. -/
  store : OpenStore

namespace ProjectContext

/-- Opens the project with a root directory. -/
def openAt (root : Path) : Session ProjectContext := do
  let layout : ProjectLayout := ⟨root⟩
  let config ← ProjectConfig.load layout
  let storePath := layout.resolve ⟨config.storePath⟩
  let store ← OpenStore.openIn ("Failed to open project database at " ++ storePath.text) storePath
  return ⟨layout, config, storePath, store⟩

/-- The database of the run store. -/
def db (project : ProjectContext) : Database :=
  project.store.db

/-- The sources that a spec names, which must be there. -/
def specSources (project : ProjectContext) (spec : AuditSpec) : Session Path := do
  let path := project.layout.resolve ⟨spec.sources⟩
  if !(← get).pathExists path then Session.fail ("Audit sources not found: " ++ path.text)
  return path

/-- Where sources are looked for, with the project's extensions. -/
def sourceRoot (project : ProjectContext) (path : Path) : SourceRoot :=
  SourceRoot.withExtensions { root := path } project.config.extensions

/-- Creates the empty output directory of an audit. One that is there already is removed if `force`
says so. -/
def prepareOutput (project : ProjectContext) (audit : String) (force : Bool) : Session Path := do
  if !isPlainName audit then
    Session.fail ("Refusing to use audit name '" ++ audit ++ "' as an output directory")
  let dir := project.layout.runOutput audit
  if (← get).pathExists dir then
    if !force then
      Session.fail ("Audit output already exists at " ++ dir.text ++
        " (rerun with --force to overwrite)")
    Session.change ("Failed to clean existing audit output dir " ++ dir.text) (·.removeDirAll dir)
  Session.createDirAll ("Failed to create audit output dir " ++ dir.text) dir
  return dir

end ProjectContext

end TokenAudit
