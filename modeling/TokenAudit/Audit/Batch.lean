import TokenAudit.Audit.Implementation
import TokenAudit.Hash.Sha256

/-!
# Audits of many files

Every file of a batch is audited by itself. The batch keeps the files in order and sums their
counts.
-/

namespace TokenAudit

/-- A source file: its path, and its text or the reason why it could not be read. -/
structure SourceFile where
  /-- The path. -/
  path : String
  /-- The text, or the reason why there is none. -/
  text : Except String String

/-- Counts over the verdicts of one file. -/
structure FileSummary where
  /-- The number of verdicts. -/
  total : Nat
  /-- How many meet every requirement. -/
  full : Nat
  /-- How many meet some requirement. -/
  partly : Nat
  deriving Repr, BEq, DecidableEq

/-- The counts over a list of verdicts. -/
def FileSummary.of (implementations : List Implementation) : FileSummary :=
  ⟨implementations.length, implementations.countP (·.allMet), implementations.countP (·.someMet)⟩

/-- What the audit of one file gives. -/
inductive FileResult
  /-- The verdicts, and the path of the file if a gas finding was made. -/
  | analyzed (implementations : List Implementation) (gasErrorFile : Option String)
  /-- The reason why there are none. -/
  | failed (error : String)
  deriving Repr, BEq, DecidableEq

/-- A file with what its audit gives. -/
structure AuditedFile where
  /-- The path. -/
  file : String
  /-- The result. -/
  result : FileResult
  /-- The hash of the text; `none` if it could not be read. -/
  contentHash : Option String
  deriving Repr, BEq, DecidableEq

namespace AuditedFile

/-- The verdicts. -/
def implementations (f : AuditedFile) : List Implementation :=
  match f.result with
  | .analyzed implementations _ => implementations
  | .failed _ => []

/-- The reason why there are no verdicts. -/
def error? (f : AuditedFile) : Option String :=
  match f.result with
  | .analyzed .. => none
  | .failed error => some error

/-- The counts over the verdicts, if there are verdicts. -/
def summary? (f : AuditedFile) : Option FileSummary :=
  match f.result with
  | .analyzed implementations _ => some (.of implementations)
  | .failed _ => none

/-- The path of the file, if a gas finding was made. -/
def gasErrorFile? (f : AuditedFile) : Option String :=
  match f.result with
  | .analyzed _ gasErrorFile => gasErrorFile
  | .failed _ => none

/-- The document that is kept about a file. -/
def toJson (f : AuditedFile) : Json :=
  match f.result with
  | .analyzed implementations gasErrorFile =>
    let summary := FileSummary.of implementations
    .obj ([("all_implementations", .arr (implementations.map (·.toJson))),
      ("summary", .obj [("total_implementations", .ofNat summary.total),
        ("fully_compliant", .ofNat summary.full), ("partially_compliant", .ofNat summary.partly)])] ++
      (gasErrorFile.map fun path => ("gas_error_file", Json.str path)).toList ++
      [("file", .str f.file)])
  | .failed error => .obj [("error", .str error), ("file", .str f.file)]

end AuditedFile

/-- Counts over a batch. -/
structure BatchSummary where
  /-- The number of files. -/
  files : Nat
  /-- How many files have verdicts. -/
  analyzed : Nat
  /-- How many files have none. -/
  failed : Nat
  /-- The number of verdicts. -/
  implementations : Nat
  /-- How many verdicts meet every requirement. -/
  full : Nat
  /-- How many verdicts meet some requirement. -/
  partly : Nat
  deriving Repr, BEq, DecidableEq

namespace BatchSummary

/-- The counts with one more file taken in. -/
def add (s : BatchSummary) (f : AuditedFile) : BatchSummary :=
  match f.summary? with
  | some counts =>
    { s with
      analyzed := s.analyzed + 1
      implementations := s.implementations + counts.total
      full := s.full + counts.full
      partly := s.partly + counts.partly }
  | none => { s with failed := s.failed + 1 }

/-- The counts over a list of files. -/
def of (files : List AuditedFile) : BatchSummary :=
  files.foldl add ⟨files.length, 0, 0, 0, 0, 0⟩

end BatchSummary

/-- The files of one audit, in order. -/
structure AuditBatch where
  /-- The files. -/
  files : List AuditedFile
  deriving Repr, BEq, DecidableEq

namespace AuditBatch

/-- The counts over the batch. -/
def summary (batch : AuditBatch) : BatchSummary :=
  .of batch.files

/-- The documents of all files. -/
def toJson (batch : AuditBatch) : Json :=
  .arr (batch.files.map (·.toJson))

end AuditBatch

namespace Auditor

/-- Audits one file. -/
def analyzeFile (auditor : Auditor) (file : SourceFile) : Except OffsetFault AuditedFile := do
  match file.text with
  | .error cause => return ⟨file.path, .failed ("Error processing file: " ++ cause), none⟩
  | .ok text =>
    let hash := some (Hash.contentHash text)
    match ← auditor.analyze text with
    | .error error => return ⟨file.path, .failed error.message, hash⟩
    | .ok implementations =>
      let gasFound := implementations.any (·.requirements.hasGasFamilyError)
      return ⟨file.path, .analyzed implementations (if gasFound then some file.path else none), hash⟩

/-- Audits every file of a list. -/
def audit (auditor : Auditor) (files : List SourceFile) : Except OffsetFault AuditBatch := do
  return ⟨← files.mapM auditor.analyzeFile⟩

end Auditor

end TokenAudit
