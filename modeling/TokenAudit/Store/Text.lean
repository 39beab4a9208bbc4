import TokenAudit.Store.Database

/-!
# The text of a run store

A database is kept as a line that tells what the file is, followed by a document.
-/

namespace TokenAudit

namespace RunRow

/-- The row as a document. -/
def toJson (row : RunRow) : Json :=
  .arr [.int row.id, .str row.status, row.record.toJson]

/-- The row that a document describes. -/
def ofJson? : Json → Option RunRow
  | .arr [.int id, .str status, record] => (RunRecord.ofJson? record).map fun record =>
    ⟨id, record, status⟩
  | _ => none

end RunRow

namespace RunTable

/-- The table as a document. -/
def toJson (table : RunTable) : Json :=
  .arr [.arr (table.rows.map (·.toJson)), .int table.lastId, .bool table.indexed]

/-- The table that a document describes. -/
def ofJson? : Json → Option RunTable
  | .arr [.arr rows, .int lastId, .bool indexed] => (rows.mapM RunRow.ofJson?).map fun rows =>
    ⟨rows, lastId, indexed⟩
  | _ => none

end RunTable

namespace OutcomeRow

/-- The row as a document. -/
def toJson (row : OutcomeRow) : Json :=
  .arr [.int row.id, .int row.runId, .str row.path, .ofText? row.contentHash, .str row.outcome,
    .ofText? row.error]

/-- The row that a document describes. -/
def ofJson? : Json → Option OutcomeRow
  | .arr [.int id, .int runId, .str path, contentHash, .str outcome, error] => do
    let contentHash ← Json.optional Json.asText? (some contentHash)
    let error ← Json.optional Json.asText? (some error)
    return ⟨id, runId, path, contentHash, outcome, error⟩
  | _ => none

end OutcomeRow

namespace OutcomeTable

/-- The table as a document. -/
def toJson (table : OutcomeTable) : Json :=
  .arr [.arr (table.rows.map (·.toJson)), .int table.lastId, .bool table.indexed]

/-- The table that a document describes. -/
def ofJson? : Json → Option OutcomeTable
  | .arr [.arr rows, .int lastId, .bool indexed] =>
    (rows.mapM OutcomeRow.ofJson?).map fun rows => ⟨rows, lastId, indexed⟩
  | _ => none

end OutcomeTable

namespace Database

/-- The database as a document. -/
def toJson (db : Database) : Json :=
  .arr [.int db.version, (db.runs.map (·.toJson)).getD .null,
    (db.outcomes.map (·.toJson)).getD .null]

/-- The database that a document describes. -/
def ofJson? : Json → Option Database
  | .arr [.int version, runs, outcomes] => do
    let runs ← Json.optional RunTable.ofJson? (some runs)
    let outcomes ← Json.optional OutcomeTable.ofJson? (some outcomes)
    return ⟨version, runs, outcomes⟩
  | _ => none

/-- The line that a file with a database starts with. -/
def header : List Char :=
  "run store 1\n".toList

/-- The text of a database. -/
def toText (db : Database) : String :=
  String.ofList (header ++ db.toJson.compact.toList)

/-- The database that a text describes. -/
def ofText? (text : String) : Option Database := do
  let cs := text.toList
  if !header.isPrefixOf cs then none
  ofJson? (← Json.read? (String.ofList (cs.drop header.length)))

end Database

end TokenAudit
