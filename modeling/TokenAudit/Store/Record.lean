import TokenAudit.Audit.Batch
import TokenAudit.Json.Read
import TokenAudit.Json.Record

/-!
# What is recorded about runs

A run record sums up one run of an audit. An outcome record keeps the document about one file of a
run.
-/

namespace TokenAudit

/-- How a run stands. -/
inductive RunStatus
  /-- The run has not ended. -/
  | running
  /-- The run ended with a batch. -/
  | succeeded
  /-- The run ended without a batch. -/
  | failed
  deriving Repr, BEq, DecidableEq

namespace RunStatus

/-- Every status. -/
def all : List RunStatus :=
  [running, succeeded, failed]

/-- The name of a status. -/
def name : RunStatus → String
  | running => "running"
  | succeeded => "succeeded"
  | failed => "failed"

/-- The status of the given name; case does not matter. -/
def parse? (text : String) : Option RunStatus :=
  all.find? (·.name == Text.lower text)

/-- The status in a JSON document. -/
def ofJson? (value : Json) : Option RunStatus :=
  value.asWord?.bind fun word => all.find? (·.name == word)

end RunStatus

/-- One run of an audit. -/
structure RunRecord where
  /-- The number of the run; none until it is recorded. -/
  id : Option Int
  /-- The name of the audit. -/
  audit : String
  /-- The signature that was looked for. -/
  signature : String
  /-- The name of the standard. -/
  standard : String
  /-- The name of the profile. -/
  profile : String
  /-- The hash of the spec. -/
  specHash : String
  /-- The sources, as the spec names them. -/
  sources : String
  /-- How the run stands. -/
  status : RunStatus
  /-- When it started. -/
  startedAt : String
  /-- When it ended. -/
  finishedAt : String
  /-- How many files it covered. -/
  files : Int
  /-- How many functions meet every requirement. -/
  full : Int
  /-- How many functions meet some requirement. -/
  partly : Int
  deriving Repr, BEq, DecidableEq

namespace RunRecord

/-- The fields of a record, in order. -/
def fieldNames : List String :=
  ["id", "audit", "signature", "standard", "profile", "spec_hash", "sources", "status", "started_at",
    "finished_at", "files", "fully_compliant", "partially_compliant"]

/-- The record that a JSON value describes. -/
def ofJson? (value : Json) : Option RunRecord := do
  match ← value.record? fieldNames 13 with
  | [id, audit, signature, standard, profile, specHash, sources, status, startedAt, finishedAt, files,
      full, partly] =>
    return {
      id := ← Json.optional Json.asInt? id
      audit := ← Json.needed Json.asText? audit
      signature := ← Json.needed Json.asText? signature
      standard := ← Json.needed Json.asText? standard
      profile := ← Json.needed Json.asText? profile
      specHash := ← Json.needed Json.asText? specHash
      sources := ← Json.needed Json.asText? sources
      status := ← Json.needed RunStatus.ofJson? status
      startedAt := ← Json.needed Json.asText? startedAt
      finishedAt := ← Json.needed Json.asText? finishedAt
      files := ← Json.needed Json.asInt? files
      full := ← Json.needed Json.asInt? full
      partly := ← Json.needed Json.asInt? partly }
  | _ => none

/-- The record as an object; a missing number is left out. -/
def toJson (record : RunRecord) : Json :=
  .obj ((record.id.map fun id => ("id", Json.int id)).toList ++
    [("audit", .str record.audit), ("signature", .str record.signature),
      ("standard", .str record.standard), ("profile", .str record.profile),
      ("spec_hash", .str record.specHash), ("sources", .str record.sources),
      ("status", .str record.status.name), ("started_at", .str record.startedAt),
      ("finished_at", .str record.finishedAt), ("files", .int record.files),
      ("fully_compliant", .int record.full), ("partially_compliant", .int record.partly)])

end RunRecord

/-- The outcome of one file of a run. -/
structure OutcomeRecord where
  /-- The number of the run. -/
  runId : Int
  /-- The path of the file. -/
  path : String
  /-- The hash of its text, if it could be read. -/
  contentHash : Option String
  /-- The document about the file, with sorted fields. -/
  outcome : Json
  /-- The reason why the file has no verdicts. -/
  error : Option String
  deriving Repr, BEq

namespace OutcomeRecord

/-- The fields of a record, in order. -/
def fieldNames : List String :=
  ["run_id", "path", "content_hash", "outcome", "error"]

/-- The record that a JSON value describes. -/
def ofJson? (value : Json) : Option OutcomeRecord := do
  match ← value.record? fieldNames 5 with
  | [runId, path, contentHash, outcome, error] =>
    return {
      runId := ← Json.needed Json.asInt? runId
      path := ← Json.needed Json.asText? path
      contentHash := ← Json.optional Json.asText? contentHash
      outcome := ← Json.needed (fun document => some document.sorted) outcome
      error := ← Json.optional Json.asText? error }
  | _ => none

/-- The records that a JSON list describes. -/
def listOfJson? : Json → Option (List OutcomeRecord)
  | .arr items => items.mapM ofJson?
  | _ => none

/-- The record of an audited file. -/
def ofAudited (runId : Int) (file : AuditedFile) : OutcomeRecord :=
  ⟨runId, file.file, file.contentHash, file.toJson.sorted, file.error?⟩

end OutcomeRecord

end TokenAudit
