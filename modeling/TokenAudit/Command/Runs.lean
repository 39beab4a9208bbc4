import TokenAudit.Audit.Run
import TokenAudit.Command.Analyze
import TokenAudit.Command.Project

/-!
# Commands about runs
-/

namespace TokenAudit.Command

/-- Audits sources inside a project and records the run, if the run store can be written. -/
def runRecorded (project : ProjectContext) (auditor : Auditor) (info : RunInfo) (times : RunTimes)
    (sources : Except AuditError (List SourceFile)) :
    Session (Except AuditError (AuditBatch × Option Int)) := do
  let writable := project.store.canSave (← get)
  let (result, db) ← checkFault (auditor.run info times sources writable project.db)
  if writable then modify (project.store.save db)
  return result

/-- The document that is kept next to the report of a run. -/
def runMetadata (audit : String) (runId : Option Int) (auditor : Auditor) (sources : Path)
    (specHash : String) (summary : BatchSummary) : Json :=
  .obj [("audit", .str audit), ("run_id", (runId.map Json.int).getD .null),
    ("standard", .str auditor.standard.name), ("signature", .str auditor.signature),
    ("profile", .str auditor.profile.name), ("sources", .str sources.text),
    ("spec_hash", .str specHash), ("files", .ofNat summary.files),
    ("analyzed", .ofNat summary.analyzed), ("failed", .ofNat summary.failed),
    ("implementations", .ofNat summary.implementations),
    ("fully_compliant", .ofNat summary.full), ("partially_compliant", .ofNat summary.partly)]

/-- Audits sources for the target of a spec, records the run, and writes what came out of it to the
output directory. -/
def runInto (project : ProjectContext) (loaded : LoadedSpec) (target : Target)
    (sources output : Path) (times : RunTimes) : Session String := do
  let spec := loaded.spec
  let profile := spec.profileOr (project.config.defaultProfile.getD .standard)
  let auditor ← checkAudit (Auditor.ofRegistry Standard.all target.standard target.signature profile)
  let info : RunInfo := ⟨spec.name, loaded.hash, spec.sources⟩
  let files ← Session.ask (project.sourceRoot sources).sources
  let (batch, runId) ← checkAudit (← runRecorded project auditor info times files)
  writeReport [] batch (output.child "report.json")
  let metadataPath := output.child "run_metadata.json"
  Session.change ("Failed to write run metadata to " ++ metadataPath.text) (·.writeText metadataPath
    (runMetadata spec.name runId auditor sources loaded.hash batch.summary).pretty)
  let specPath := output.child "spec.yaml"
  Session.change ("Failed to write spec copy to " ++ specPath.text) (·.writeText specPath spec.toYaml)
  return unlines (["Audit run complete:",
    "  Audit: " ++ spec.name,
    "  Run id: " ++ (runId.map toString).getD "(not recorded)",
    "  Standard: " ++ target.standard.name,
    "  Signature: " ++ auditor.signature,
    "  Profile: " ++ profile.name,
    "  Output: " ++ output.text, ""] ++ batch.lines)

/-- Runs the audit that a spec file describes: checks what it needs, prepares the output directory,
and only then audits. -/
def runAudit (root file : String) (force : Bool) (times : RunTimes) : Session String := do
  let project ← ProjectContext.openAt (← Session.ask (absoluteRoot · root))
  let loaded ← match AuditSpec.load (← get) ⟨file⟩ with
    | .ok loaded => pure loaded
    | .error error =>
      throw (.failed (⟨"Invalid audit spec at " ++ file, .complete⟩ :: error.causes))
  let target ← checkStandard loaded.spec.target
  let sources ← project.specSources loaded.spec
  let output ← project.prepareOutput loaded.spec.name force
  runInto project loaded target sources output times

/-- The line about a run. -/
def runLine (run : RunRecord) : String :=
  "- #" ++ toString (run.id.getD 0) ++ " " ++ run.audit ++ " [" ++ run.status.name ++ "] " ++
    toString run.files ++ " files, " ++ toString run.full ++ " fully / " ++ toString run.partly ++
    " partially compliant (" ++ run.finishedAt ++ ")"

/-- Lists the recorded runs, of one audit or of all. -/
def listRuns (root : String) (audit : Option String) (json : Bool) : Session String := do
  let project ← ProjectContext.openAt (← Session.ask (absoluteRoot · root))
  let runs ← Session.checkStore "Failed to list audit runs" (project.db.listRuns audit)
  if json then return document (.arr (runs.map (·.toJson)))
  if runs.isEmpty then return "No audit runs recorded.\n"
  return unlines ("Audit runs:" :: runs.map runLine)

/-- The number of functions that a stored document has verdicts on. -/
def implementationCount (outcome : Json) : Nat :=
  match outcome.field? "all_implementations" with
  | some (.arr items) => items.length
  | _ => 0

/-- The line about a file of a run. -/
def outcomeLine (record : OutcomeRecord) : String :=
  "- " ++ record.path ++ ": " ++
    record.error.getD (toString (implementationCount record.outcome) ++ " implementation(s)")

/-- The lines about a run and its files. -/
def runLines (id : Int) (run : RunRecord) (outcomes : List OutcomeRecord) : List String :=
  ["Audit run #" ++ toString id,
    "  Audit: " ++ run.audit,
    "  Status: " ++ run.status.name,
    "  Standard: " ++ run.standard,
    "  Signature: " ++ run.signature,
    "  Profile: " ++ run.profile,
    "  Sources: " ++ run.sources,
    "  Started: " ++ run.startedAt,
    "  Finished: " ++ run.finishedAt,
    "  Files: " ++ toString run.files ++ " (" ++ toString run.full ++ " fully / " ++
      toString run.partly ++ " partially compliant)", ""] ++ outcomes.map outcomeLine

/-- Shows the latest run of an audit with its files. -/
def showRun (root audit : String) (json : Bool) : Session String := do
  let project ← ProjectContext.openAt (← Session.ask (absoluteRoot · root))
  let some run ← Session.checkStore "Failed to load audit run" (project.db.latestRun audit)
    | Session.fail ("No runs recorded for audit '" ++ audit ++ "'")
  let some id := run.id | Session.fail ("Run for audit '" ++ audit ++ "' has no id")
  let outcomes ← Session.checkStore "Failed to load file outcomes" (project.db.loadOutcomes id)
  if json then
    return document (.obj [("run", run.toJson), ("files", .arr (outcomes.map (·.outcome)))])
  return unlines (runLines id run outcomes)

end TokenAudit.Command
