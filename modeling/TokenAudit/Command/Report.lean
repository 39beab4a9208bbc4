import TokenAudit.Audit.Batch

/-!
# Batches as text
-/

namespace TokenAudit

/-- Lines of text, each with its line break. -/
def unlines (lines : List String) : String :=
  String.join (lines.map (· ++ "\n"))

namespace Implementation

/-- The verdict in one word. -/
def verdict (i : Implementation) : String :=
  if i.allMet then "compliant" else if i.someMet then "partial" else "non-compliant"

/-- The lines about one function. -/
def lines (i : Implementation) : List String :=
  ["  " ++ i.function ++ " [" ++ toString i.start ++ ".." ++ toString i.stop ++ "] " ++ i.verdict] ++
    (i.requirements.checklist.map fun (name, met) =>
      "    " ++ (if met then "[x]" else "[ ]") ++ " " ++ name) ++
    (if i.internalCalls.isEmpty then []
      else ["    calls: " ++ ", ".intercalate i.internalCalls])

end Implementation

/-- The lines about one file. -/
def AuditedFile.lines (f : AuditedFile) : List String :=
  f.file :: match f.result with
    | .failed error => ["  error: " ++ error]
    | .analyzed implementations gasErrorFile =>
      implementations.flatMap (·.lines) ++
        (if gasErrorFile.isSome then ["  gas family error: single-item transfer inside batch"] else [])

/-- The line with the counts of a batch. -/
def BatchSummary.line (s : BatchSummary) : String :=
  "Files: " ++ toString s.files ++ " (analyzed " ++ toString s.analyzed ++ ", failed " ++
    toString s.failed ++ ") | Implementations: " ++ toString s.implementations ++
    " | Fully compliant: " ++ toString s.full ++ " | Partially compliant: " ++ toString s.partly

/-- The lines about a batch: its files, then its counts. -/
def AuditBatch.lines (batch : AuditBatch) : List String :=
  batch.files.flatMap (·.lines) ++ ["", batch.summary.line]

end TokenAudit
