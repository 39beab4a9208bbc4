import TokenAudit.Store.Database

/-!
# Changes by other programs

A database is a file, so other programs can change it. They are not held to the rule that outcomes
belong to a run.
-/

namespace TokenAudit

open Text

/-- A change that another program makes. -/
inductive StoreEdit
  /-- Sets the version. -/
  | setVersion (version : Int)
  /-- Removes a table with its index. -/
  | dropTable (name : String)
  /-- Sets the status of a run. -/
  | setStatus (id : Int) (status : String)
  /-- Sets the documents of all outcomes of a run. -/
  | setOutcomes (id : Int) (document : String)
  /-- Removes a run. -/
  | deleteRun (id : Int)
  deriving Repr, BEq, DecidableEq

namespace StoreEdit

/-- A version as the database keeps it: 32 bits with sign, zero if it does not fit. -/
def fitVersion (version : Int) : Int :=
  if -0x80000000 ≤ version && version < 0x80000000 then version else 0

/-- Makes a change. A table that is to be changed must be there. -/
def apply (edit : StoreEdit) : StoreWork Unit := do
  let db ← get
  match edit with
  | setVersion version => set { db with version := fitVersion version }
  | dropTable name =>
    if lower name == "audit_runs" && db.runs.isSome then set { db with runs := none }
    else if lower name == "audit_files" && db.outcomes.isSome then set { db with outcomes := none }
    else throw .database
  | setStatus id status =>
    let some table := db.runs | throw .database
    let rows := table.rows.map fun row => if row.id == id then { row with status } else row
    set { db with runs := some { table with rows } }
  | setOutcomes id document =>
    let some table := db.outcomes | throw .database
    let rows := table.rows.map fun row =>
      if row.runId == id then { row with outcome := document } else row
    set { db with outcomes := some { table with rows } }
  | deleteRun id =>
    let some table := db.runs | throw .database
    set { db with runs := some { table with rows := table.rows.filter (·.id != id) } }

end StoreEdit

end TokenAudit
