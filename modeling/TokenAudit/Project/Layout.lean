import TokenAudit.Path

/-!
# Where a project keeps things

All places of a project hang off its root directory.
-/

namespace TokenAudit

/-- The places of a project. -/
structure ProjectLayout where
  /-- The root directory. -/
  root : Path
  deriving Repr, BEq, DecidableEq

namespace ProjectLayout

variable (layout : ProjectLayout)

/-- The directory of what the tool itself keeps. -/
def metaDir : Path :=
  layout.root.child ".conform"

/-- The project's configuration. -/
def configPath : Path :=
  layout.metaDir.child "project.json"

/-- The project's run store. -/
def storePath : Path :=
  layout.metaDir.child "project.db"

/-- The directory of audit specs. -/
def auditsDir : Path :=
  layout.root.child "audits"

/-- The directory of exported reports. -/
def reportsDir : Path :=
  layout.root.child "reports"

/-- The directory of outputs. -/
def outputsDir : Path :=
  layout.root.child "outputs"

/-- The directory of the outputs of runs. -/
def runsDir : Path :=
  layout.outputsDir.child "runs"

/-- The directories of a new project, in the order in which they are created. -/
def directories : List Path :=
  [layout.metaDir, layout.auditsDir, layout.reportsDir, layout.outputsDir, layout.runsDir]

/-- The path of the run store as a configuration keeps it. -/
def relativeStorePath : String :=
  ((Path.relativeTo? layout.root layout.storePath).getD layout.storePath).text

/-- The output directory of an audit. -/
def runOutput (audit : String) : Path :=
  layout.runsDir.child audit

/-- A path that a spec or a configuration names. -/
def resolve (path : Path) : Path :=
  layout.root.join path

end ProjectLayout

end TokenAudit
