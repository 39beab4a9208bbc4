import TokenAudit.Command.Selectors
import TokenAudit.Files.Sources

/-!
# Analysis without a project
-/

namespace TokenAudit

/-- The causes that an error of an audit is made of. -/
def AuditError.causes : AuditError → List Cause
  | io path cause => [⟨(io path cause).message, .complete⟩, ⟨cause, .complete⟩]
  | error => [⟨error.message, .complete⟩]

/-- What to analyze, and how. -/
structure AnalyzeOptions where
  /-- The signature of the function to look for. -/
  signature : Option String := none
  /-- The name of the standard. -/
  standard : Option String := none
  /-- The name of the profile. -/
  profile : Option String := none
  /-- The extensions of source files; the usual one if there are none. -/
  extensions : List String := []
  /-- Whether files are analyzed side by side. -/
  parallel : Bool := false
  /-- Whether the output is a document. -/
  json : Bool := false
  /-- A file that the report is written to. -/
  out : Option String := none
  deriving Repr, BEq, DecidableEq

namespace Command

/-- A step that gives a standard or a profile. -/
def checkStandard {α : Type} : Except StandardError α → Session α
  | .ok a => pure a
  | .error error => Session.fail error.message

/-- A step of an audit. -/
def checkAudit {α : Type} : Except AuditError α → Session α
  | .ok a => pure a
  | .error error => throw (.failed error.causes)

/-- A step that may be broken off. -/
def checkFault {α : Type} : Except OffsetFault α → Session α
  | .ok a => pure a
  | .error fault => throw (.broken fault)

/-- Writes the document of a batch; the causes of an error come below `context`. -/
def writeReport (context : List Cause) (batch : AuditBatch) (path : Path) : Session Unit := do
  match (← get).writeText path batch.toJson.pretty with
  | .ok fs => set fs
  | .error error => throw (.failed (context ++ (AuditError.io path.text error.message).causes))

/-- Analyzes a file or a directory of sources. -/
def analyze (path : String) (options : AnalyzeOptions) : Session String := do
  let target ← checkStandard (Target.resolve options.standard options.signature)
  let profile ← match options.profile with
    | some name => checkStandard (Profile.parse name)
    | none => pure .standard
  if !(← get).pathExists ⟨path⟩ then Session.fail ("Source path does not exist: " ++ path)
  let root : SourceRoot := { root := ⟨path⟩ }
  let root := if options.extensions.isEmpty then root else root.withExtensions options.extensions
  let auditor ← checkAudit (Auditor.ofRegistry Standard.all target.standard target.signature profile)
  let files ← checkAudit (root.sources (← get))
  let batch ← checkFault (auditor.audit files)
  if let some out := options.out then
    writeReport [⟨"Failed to write report to " ++ out, .complete⟩] batch ⟨out⟩
  if options.json then return document batch.toJson
  return unlines (["Standard: " ++ target.standard.name, "Signature: " ++ auditor.signature,
    "Profile: " ++ profile.name, ""] ++ batch.lines ++
    (options.out.map ("Report written to " ++ ·)).toList)

end Command

end TokenAudit
