import TokenAudit.Store.Database

/-!
# Recorded runs

A run audits sources and records what came out. That the run store refuses a record does not make the
audit fail.
-/

namespace TokenAudit

/-- What a run is recorded under. -/
structure RunInfo where
  /-- The name of the audit. -/
  audit : String
  /-- The hash of the spec. -/
  specHash : String
  /-- The sources, as the spec names them. -/
  sources : String
  deriving Repr, BEq, DecidableEq

/-- When a run started and ended. -/
structure RunTimes where
  /-- The start. -/
  started : String
  /-- The end. -/
  finished : String
  deriving Repr, BEq, DecidableEq

namespace Auditor

/-- The record of a run without a batch. -/
def failedRecord (auditor : Auditor) (info : RunInfo) (times : RunTimes) : RunRecord :=
  { id := none
    audit := info.audit
    signature := auditor.signature
    standard := auditor.standard.name
    profile := auditor.profile.name
    specHash := info.specHash
    sources := info.sources
    status := .failed
    startedAt := times.started
    finishedAt := times.finished
    files := 0
    full := 0
    partly := 0 }

/-- The record of a run with a batch. -/
def batchRecord (auditor : Auditor) (info : RunInfo) (times : RunTimes) (batch : AuditBatch) :
    RunRecord :=
  { auditor.failedRecord info times with
    status := .succeeded
    files := batch.summary.files
    full := batch.summary.full
    partly := batch.summary.partly }

/-- Records a batch with the outcomes of its files; the result has the number of the run if it could
be recorded. The run stays recorded if its outcomes cannot be. -/
def recordBatch (auditor : Auditor) (info : RunInfo) (times : RunTimes) (batch : AuditBatch)
    (writable : Bool) (db : Database) : Option Int × Database :=
  match (Database.insertRun writable (auditor.batchRecord info times batch)).run db with
  | (.error _, db) => (none, db)
  | (.ok id, db) =>
    let outcomes := batch.files.map (OutcomeRecord.ofAudited id)
    (some id, ((Database.insertOutcomes writable outcomes).run db).2)

/-- Records a run that has no batch. -/
def recordFailure (auditor : Auditor) (info : RunInfo) (times : RunTimes) (writable : Bool)
    (db : Database) : Database :=
  ((Database.insertRun writable (auditor.failedRecord info times)).run db).2

/-- Audits the sources, if there are any, and records the run in a database that can be written or
not. -/
def run (auditor : Auditor) (info : RunInfo) (times : RunTimes)
    (sources : Except AuditError (List SourceFile)) (writable : Bool) (db : Database) :
    Except OffsetFault (Except AuditError (AuditBatch × Option Int) × Database) := do
  match sources with
  | .error error => return (.error error, auditor.recordFailure info times writable db)
  | .ok files =>
    let batch ← auditor.audit files
    let (id, db) := auditor.recordBatch info times batch writable db
    return (.ok (batch, id), db)

end Auditor

end TokenAudit
