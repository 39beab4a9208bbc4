import TokenAudit.Json.Render
import TokenAudit.Store.Record

/-!
# The run store

A database with a table of runs and a table of outcomes. Rows are numbered from one, and numbers are
never used again; when they are used up, no row can be added. The version of a database says which of
its parts exist: 0 nothing, 1 the tables, 2 also an index on each table. Opening brings a database up
to version 2.

Work on a database keeps what it has changed when it fails. What must be changed as a whole is done in
a transaction, which is committed or rolled back.
-/

namespace TokenAudit

/-- Why the run store refuses something. -/
inductive StoreError
  /-- The database does not allow it. -/
  | database
  /-- The database is of a version that is not known. -/
  | unsupportedVersion (found : Int)
  /-- A stored document cannot be read. -/
  | badOutcome
  deriving Repr, BEq, DecidableEq

/-! ## Rows and their numbers -/

/-- The greatest number that a row can have. -/
def maxRowId : Int := 0x7FFFFFFFFFFFFFFF

/-- The greatest number that is used, if rows have the numbers `ids` and `last` is the greatest one that
was ever given. -/
def usedRowId (ids : List Int) (last : Int) : Int :=
  max (ids.max?.getD 0) last

/-- The number after the greatest one that is used; there is none if no row can have it. -/
def nextRowId? (used : Int) : Option Int :=
  if used < maxRowId then some (used + 1) else none

/-- A row of the table of runs. The status is any text. -/
structure RunRow where
  /-- The number of the run. -/
  id : Int
  /-- The record as it was given. -/
  record : RunRecord
  /-- The name of the status. -/
  status : String
  deriving Repr, BEq, DecidableEq

/-- The table of runs. -/
structure RunTable where
  /-- The rows, by their numbers. -/
  rows : List RunRow
  /-- The greatest number that was ever given. -/
  lastId : Int
  /-- Whether there is an index on the name of the audit. -/
  indexed : Bool
  deriving Repr, BEq, DecidableEq

/-- A row of the table of outcomes. The document is kept as text. -/
structure OutcomeRow where
  /-- The number of the row. -/
  id : Int
  /-- The number of the run. -/
  runId : Int
  /-- The path of the file. -/
  path : String
  /-- The hash of its text. -/
  contentHash : Option String
  /-- The text of the document about the file. -/
  outcome : String
  /-- The reason why the file has no verdicts. -/
  error : Option String
  deriving Repr, BEq, DecidableEq

/-- The table of outcomes. -/
structure OutcomeTable where
  /-- The rows, by their numbers, which is the order in which they were added. -/
  rows : List OutcomeRow
  /-- The greatest number that was ever given. -/
  lastId : Int
  /-- Whether there is an index on the number of the run. -/
  indexed : Bool
  deriving Repr, BEq, DecidableEq

/-- A database. -/
structure Database where
  /-- The version. -/
  version : Int
  /-- The table of runs, if there is one. -/
  runs : Option RunTable
  /-- The table of outcomes, if there is one. -/
  outcomes : Option OutcomeTable
  deriving Repr, BEq, DecidableEq

namespace RunRow

/-- The record of a row, if its status is known. -/
def toRecord? (row : RunRow) : Option RunRecord :=
  (RunStatus.parse? row.status).map fun status => { row.record with id := some row.id, status }

end RunRow

namespace RunTable

/-- A table without rows. -/
def empty : RunTable :=
  ⟨[], 0, false⟩

/-- The greatest number that is used. -/
def usedId (table : RunTable) : Int :=
  usedRowId (table.rows.map (·.id)) table.lastId

/-- The number of the next run, unless the numbers are used up. -/
def nextId? (table : RunTable) : Option Int :=
  nextRowId? table.usedId

/-- The table with one more run, under the given number. -/
def add (table : RunTable) (id : Int) (record : RunRecord) : RunTable :=
  { table with rows := table.rows ++ [⟨id, record, record.status.name⟩], lastId := id }

/-- The rows of an audit, or all rows. -/
def select (table : RunTable) : Option String → List RunRow
  | some audit => table.rows.filter (·.record.audit == audit)
  | none => table.rows

/-- Whether there is a run with this number. -/
def has (table : RunTable) (id : Int) : Bool :=
  table.rows.any (·.id == id)

end RunTable

namespace OutcomeRow

/-- The row of a record. -/
def ofRecord (id : Int) (record : OutcomeRecord) : OutcomeRow :=
  ⟨id, record.runId, record.path, record.contentHash, record.outcome.compact, record.error⟩

/-- The record of a row, if its document can be read. -/
def toRecord? (row : OutcomeRow) : Option OutcomeRecord :=
  (Json.document? row.outcome).map fun outcome =>
    ⟨row.runId, row.path, row.contentHash, outcome, row.error⟩

end OutcomeRow

namespace OutcomeTable

/-- A table without rows. -/
def empty : OutcomeTable :=
  ⟨[], 0, false⟩

/-- The greatest number that is used. -/
def usedId (table : OutcomeTable) : Int :=
  usedRowId (table.rows.map (·.id)) table.lastId

/-- The number of the next outcome, unless the numbers are used up. -/
def nextId? (table : OutcomeTable) : Option Int :=
  nextRowId? table.usedId

/-- The table with one more outcome, under the given number. -/
def add (table : OutcomeTable) (id : Int) (record : OutcomeRecord) : OutcomeTable :=
  { table with rows := table.rows ++ [.ofRecord id record], lastId := id }

end OutcomeTable

/-! ## Work on a database -/

/-- Work on a database. It comes to an answer or to an error, and the database is what the work has made
of it either way. -/
abbrev StoreWork := ExceptT StoreError (StateM Database)

/-- Work as one transaction. If it succeeds it is committed, which fails if there are changes that cannot
be written; if it fails it is rolled back. -/
def StoreWork.transaction {α : Type} (writable : Bool) (work : StoreWork α) : StoreWork α :=
  ExceptT.mk fun before =>
    match work.run before with
    | (.ok answer, after) =>
      if writable ∨ after = before then (.ok answer, after) else (.error .database, before)
    | (.error error, _) => (.error error, before)

namespace Database

open StoreWork (transaction)

/-- The version that opening gives a database. -/
def currentVersion : Int := 2

/-- A database with nothing in it. -/
def empty : Database :=
  ⟨0, none, none⟩

/-- Adds the tables that are missing, which makes version 1. -/
def addTables : StoreWork Unit := do
  modify fun db => { db with runs := some (db.runs.getD .empty) }
  modify fun db => { db with outcomes := some (db.outcomes.getD .empty) }
  modify fun db => { db with version := 1 }

/-- Adds an index to each table, which makes version 2; both tables must be there. -/
def addIndexes : StoreWork Unit := do
  let some runs := (← get).runs | throw .database
  modify fun db => { db with runs := some { runs with indexed := true } }
  let some outcomes := (← get).outcomes | throw .database
  modify fun db => { db with outcomes := some { outcomes with indexed := true } }
  modify fun db => { db with version := 2 }

/-- Refuses a database that is newer than the current version. -/
def checkVersion : StoreWork Unit := do
  let version := (← get).version
  if currentVersion < version then throw (.unsupportedVersion version)

/-- Brings a database up to the current version. The two steps are transactions of their own, so the first
one stays committed if the second one fails. -/
def migrate (writable : Bool) : StoreWork Unit := do
  checkVersion
  if (← get).version == 0 then transaction writable addTables
  if (← get).version < 2 then transaction writable addIndexes

/-- Adds a run under the next number, which is the answer; the number in the record does not matter. -/
def addRun (record : RunRecord) : StoreWork Int := do
  let some table := (← get).runs | throw .database
  let some id := table.nextId? | throw .database
  modify fun db => { db with runs := some (table.add id record) }
  return id

/-- Adds an outcome under the next number; it must belong to a run. -/
def addOutcome (record : OutcomeRecord) : StoreWork Unit := do
  let some runs := (← get).runs | throw .database
  let some table := (← get).outcomes | throw .database
  let some id := table.nextId? | throw .database
  unless runs.has record.runId do throw .database
  modify fun db => { db with outcomes := some (table.add id record) }

/-- Adds outcomes one after the other; both tables must be there, even if there is no outcome. -/
def addOutcomes (records : List OutcomeRecord) : StoreWork Unit := do
  unless (← get).runs.isSome && (← get).outcomes.isSome do throw .database
  records.forM addOutcome

/-- Records a run. The answer is its number. -/
def insertRun (writable : Bool) (record : RunRecord) : StoreWork Int :=
  transaction writable (addRun record)

/-- Records outcomes, and none of them if one is refused. The answer is how many they are. -/
def insertOutcomes (writable : Bool) (records : List OutcomeRecord) : StoreWork Nat := do
  transaction writable (addOutcomes records)
  return records.length

/-- The runs of an audit, or all runs, by their numbers. -/
def listRuns (db : Database) (audit : Option String) : Except StoreError (List RunRecord) :=
  match db.runs.bind fun table => (table.select audit).mapM RunRow.toRecord? with
  | some records => .ok records
  | none => .error .database

/-- The latest run of an audit. -/
def latestRun (db : Database) (audit : String) : Except StoreError (Option RunRecord) :=
  match db.runs with
  | none => .error .database
  | some table =>
    match (table.select (some audit)).getLast? with
    | none => .ok none
    | some row =>
      match row.toRecord? with
      | some record => .ok (some record)
      | none => .error .database

/-- The outcomes of a run, in the order in which they were recorded. -/
def loadOutcomes (db : Database) (runId : Int) : Except StoreError (List OutcomeRecord) :=
  match db.outcomes with
  | none => .error .database
  | some table =>
    match (table.rows.filter (·.runId == runId)).mapM OutcomeRow.toRecord? with
    | some records => .ok records
    | none => .error .badOutcome

/-- The number of runs. -/
def countRuns (db : Database) : Except StoreError Nat :=
  match db.runs with
  | some table => .ok table.rows.length
  | none => .error .database

/-- The number of indexes. -/
def indexCount (db : Database) : Nat :=
  (if db.runs.any (·.indexed) then 1 else 0) + (if db.outcomes.any (·.indexed) then 1 else 0)

end Database

/-- What a file that should be a database holds. -/
inductive StoreFile
  /-- A database. -/
  | database (db : Database)
  /-- Something else. -/
  | foreign
  deriving Repr, BEq, DecidableEq

namespace StoreFile

/-- What bytes are when they are opened as a database: a file of at most one byte is an empty database,
and nothing else is one. -/
def ofBytes (bytes : ByteArray) : StoreFile :=
  if bytes.size ≤ 1 then .database .empty else .foreign

/-- Works on the database in a file, which holds afterwards what the work has made of it. -/
def perform {α : Type} (work : StoreWork α) : StoreFile → Except StoreError α × StoreFile
  | database db =>
    let (result, next) := work.run db
    (result, database next)
  | foreign => (.error .database, foreign)

/-- Asks the database in a file. -/
def use {α : Type} (file : StoreFile) (question : Database → Except StoreError α) :
    Except StoreError α :=
  match file with
  | database db => question db
  | foreign => .error .database

end StoreFile

namespace StoreError

/-- The wording of an error, up to what the database or the reader of documents has to say. -/
def message : StoreError → String
  | database => "SQLite error: "
  | unsupportedVersion found =>
    "Unsupported schema version " ++ toString found ++ "; supported range is 0..=" ++
      toString Database.currentVersion
  | badOutcome => "Invalid stored outcome: "

end StoreError

end TokenAudit
