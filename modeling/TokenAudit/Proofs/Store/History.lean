import TokenAudit.Proofs.Audit.Sequence
import TokenAudit.Proofs.Store.Transactions
import Mathlib.Data.List.Induction

/-!
# Histories of a run store

A program opens a store in a fresh file and then takes steps: it records runs and outcomes, asks for
them, and opens the store again. Now and then another program removes a run. The log of the steps
and their answers tells what the store holds, so every answer about runs can be told from the log.

## Main definitions

* `StoreStep.run`: the answer to a step and the file after it.
* `storeHistory`: the log and the file after the steps on a fresh file.
* `StoreLog.kept`: the runs that were recorded and not removed.
* `Database.Follows`: a database holds what a log tells.

## Main results

* `StoreStep.follows_run`: one step keeps a database in line with the log.
* `storeHistory_follows`: so do all steps on a fresh file.
* `storeHistory_answers`: numbers of runs increase, and every answer about runs is told by the log.
-/

namespace TokenAudit

/-! ## Steps and their answers -/

/-- A step on a run store. -/
inductive StoreStep
  /-- Opens the store, for the first time or again. -/
  | reopen
  /-- Records a run. -/
  | insertRun (record : RunRecord)
  /-- Records outcomes. -/
  | insertOutcomes (records : List OutcomeRecord)
  /-- Asks for the runs of an audit, or for all runs. -/
  | listRuns (audit : Option String)
  /-- Asks for the latest run of an audit. -/
  | latestRun (audit : String)
  /-- Asks for the outcomes of a run. -/
  | loadOutcomes (runId : Int)
  /-- Asks for the number of runs. -/
  | countRuns
  /-- Another program removes a run. -/
  | deleteRun (id : Int)

/-- The answer to a step. -/
inductive StoreAnswer
  /-- It is done. -/
  | done
  /-- The number of a new run. -/
  | number (id : Int)
  /-- How many outcomes were recorded. -/
  | written (count : Nat)
  /-- Some runs. -/
  | runs (records : List RunRecord)
  /-- A run, if there is one. -/
  | run (record : Option RunRecord)
  /-- Some outcomes. -/
  | outcomes (records : List OutcomeRecord)
  /-- How many runs there are. -/
  | count (runs : Nat)
  /-- The step is refused. -/
  | refused (error : StoreError)

namespace StoreFile

/-- The answer to work on the database, and the file as the work leaves it. -/
def change {α : Type} (file : StoreFile) (work : StoreWork α) (answer : α → StoreAnswer) :
    StoreAnswer × StoreFile :=
  match file.perform work with
  | (.ok result, after) => (answer result, after)
  | (.error error, after) => (.refused error, after)

/-- The answer to a question; the file stays as it is. -/
def ask {α : Type} (file : StoreFile) (question : Database → Except StoreError α)
    (answer : α → StoreAnswer) : StoreAnswer × StoreFile :=
  match file.use question with
  | .ok result => (answer result, file)
  | .error error => (.refused error, file)

end StoreFile

namespace StoreStep

/-- The answer to a step and the file after it. -/
def run (file : StoreFile) : StoreStep → StoreAnswer × StoreFile
  | reopen => file.change (Database.migrate true) fun _ => .done
  | insertRun record => file.change (Database.insertRun true record) .number
  | insertOutcomes records => file.change (Database.insertOutcomes true records) .written
  | listRuns audit => file.ask (·.listRuns audit) .runs
  | latestRun audit => file.ask (·.latestRun audit) .run
  | loadOutcomes runId => file.ask (·.loadOutcomes runId) .outcomes
  | countRuns => file.ask (·.countRuns) .count
  | deleteRun id => file.change (StoreEdit.deleteRun id).apply fun _ => .done

end StoreStep

/-- Steps and their answers, the earliest first. -/
abbrev StoreLog := List (StoreStep × StoreAnswer)

/-- The log and the file after one more step. -/
def extendHistory (history : StoreLog × StoreFile) (step : StoreStep) : StoreLog × StoreFile :=
  (history.1 ++ [(step, (step.run history.2).1)], (step.run history.2).2)

/-- The log and the file after a store was opened in a fresh file and the steps were taken. -/
def storeHistory (steps : List StoreStep) : StoreLog × StoreFile :=
  (StoreStep.reopen :: steps).foldl extendHistory ([], .database .empty)

/-! ## What a log tells -/

namespace StoreLog

/-- The number that an entry gave to a run. -/
def number? : StoreStep × StoreAnswer → Option Int
  | (.insertRun _, .number id) => some id
  | _ => none

/-- Whether an entry removed the run with this number. -/
def removes (id : Int) : StoreStep × StoreAnswer → Bool
  | (.deleteRun removed, .done) => removed == id
  | _ => false

/-- The outcomes that an entry recorded. -/
def outcomes : StoreStep × StoreAnswer → List OutcomeRecord
  | (.insertOutcomes records, .written _) => records
  | _ => []

/-- The numbers given to runs, in order. -/
def numbers (log : StoreLog) : List Int :=
  log.filterMap number?

/-- The recorded outcomes, in order. -/
def written (log : StoreLog) : List OutcomeRecord :=
  log.flatMap outcomes

/-- The runs that were recorded and not removed afterwards, in order. Each has the number that it
was given and is otherwise as it was recorded. -/
def kept : StoreLog → List RunRecord
  | [] => []
  | (.insertRun record, .number id) :: later =>
    if later.any (removes id) then kept later else { record with id := some id } :: kept later
  | _ :: later => kept later

end StoreLog

/-- The answer to a step on runs, as the log before it tells. A run gets the number after those that were
given, as long as there is one. -/
def StoreStep.AnsweredBy (before : StoreLog) (answer : StoreAnswer) : StoreStep → Prop
  | reopen => answer = .done
  | insertRun _ =>
    answer = if (before.numbers.length : Int) < maxRowId then .number (before.numbers.length + 1)
      else .refused .database
  | listRuns none => answer = .runs before.kept
  | listRuns (some audit) => answer = .runs (before.kept.filter (·.audit == audit))
  | latestRun audit => answer = .run (before.kept.filter (·.audit == audit)).getLast?
  | countRuns => answer = .count before.kept.length
  | deleteRun _ => answer = .done
  | insertOutcomes _ => True
  | loadOutcomes _ => True

namespace StoreLog

theorem numbers_concat (log : StoreLog) (entry : StoreStep × StoreAnswer) :
    numbers (log ++ [entry]) = log.numbers ++ (number? entry).toList := by
  simp only [numbers, List.filterMap_append, List.filterMap_cons, List.filterMap_nil]
  cases number? entry <;> rfl

theorem written_concat (log : StoreLog) (entry : StoreStep × StoreAnswer) :
    written (log ++ [entry]) = log.written ++ outcomes entry := by
  simp [written]

/-- Later steps take runs out of those that were kept, and add their own at the end. -/
theorem kept_append (log later : StoreLog) :
    kept (log ++ later) =
      log.kept.filter (fun run => !run.id.any fun id => later.any (removes id)) ++ later.kept := by
  induction log using kept.induct with
  | case1 => rfl
  | case2 record id rest removed ih =>
    -- The run was removed before, and stays removed.
    have hremoved : (rest ++ later).any (removes id) = true := by
      rw [List.any_append, removed, Bool.true_or]
    rw [List.cons_append, kept, if_pos hremoved, kept, if_pos removed, ih]
  | case3 record id rest removed ih =>
    -- The run was kept so far, so it goes exactly if a later step removes it.
    have hlater : (rest ++ later).any (removes id) = later.any (removes id) := by
      rw [List.any_append, Bool.eq_false_iff.mpr removed, Bool.false_or]
    rw [List.cons_append, kept, hlater, kept, if_neg removed, ih, List.filter_cons]
    by_cases hremoved : later.any (removes id) = true <;> simp [hremoved]
  | case4 entry rest hentry ih => rw [List.cons_append, kept, kept, ih] <;> exact hentry

/-- A step that neither records nor removes a run leaves the runs that are kept as they are. -/
theorem kept_concat_of_frame {entry : StoreStep × StoreAnswer} (hnumber : number? entry = none)
    (hremoves : ∀ id, removes id entry = false) (log : StoreLog) :
    kept (log ++ [entry]) = log.kept := by
  have hkept : kept [entry] = [] := by
    rw [kept, kept]
    rintro record id rfl
    cases hnumber
  rw [kept_append, hkept]
  simp [hremoves]

end StoreLog

/-! ## Databases that hold what a log tells -/

/-- The record of a row with a known status. -/
def RunRow.shown (row : RunRow) : RunRecord :=
  { row.record with id := some row.id }

/-- The name of a status is read as this status. -/
@[simp]
theorem RunStatus.parse?_name (status : RunStatus) : parse? status.name = some status := by
  cases status <;> decide

theorem RunRow.toRecord?_eq {row : RunRow} (h : row.status = row.record.status.name) :
    row.toRecord? = some row.shown := by
  simp [toRecord?, shown, h]

/-- A table holds the runs that a log tells. -/
structure RunTable.Follows (table : RunTable) (log : StoreLog) : Prop where
  /-- The rows show the runs that are kept. -/
  shown : table.rows.map RunRow.shown = log.kept
  /-- Each row has the name of its status. -/
  status : ∀ row ∈ table.rows, row.status = row.record.status.name
  /-- No row has a number that was not given. -/
  given : ∀ row ∈ table.rows, row.id ≤ table.lastId
  /-- The numbers given so far increase. -/
  increasing : log.numbers.Pairwise (· < ·)
  /-- The last number that was given is above them. -/
  bounded : ∀ id ∈ log.numbers, id ≤ table.lastId
  /-- No number is left out. -/
  last : table.lastId = log.numbers.length

/-- A table holds the outcomes that a log tells, under numbers from one on. -/
structure OutcomeTable.Follows (table : OutcomeTable) (log : StoreLog) : Prop where
  rows : table.rows = OutcomeRow.ofRecords 1 log.written
  last : table.lastId = log.written.length
  bounded : (log.written.length : Int) ≤ maxRowId

/-- A database of the current version holds the runs and outcomes that a log tells. -/
inductive Database.Follows (log : StoreLog) : Database → Prop
  | current (runs : RunTable) (outcomes : OutcomeTable) (hruns : runs.Follows log)
      (houtcomes : outcomes.Follows log) :
      Follows log ⟨currentVersion, some runs, some outcomes⟩

theorem RunTable.select_subset (table : RunTable) (audit : Option String) :
    table.select audit ⊆ table.rows := by
  cases audit with
  | none => exact List.Subset.refl _
  | some audit => exact List.filter_subset_self _

namespace RunTable.Follows

variable {table : RunTable} {log : StoreLog}

/-- The rows that are asked for can be read, and show their records. -/
theorem listRuns_eq (h : table.Follows log) (version : Int) (outcomes : Option OutcomeTable)
    (audit : Option String) :
    Database.listRuns ⟨version, some table, outcomes⟩ audit =
      .ok ((table.select audit).map RunRow.shown) := by
  have hread : (table.select audit).mapM RunRow.toRecord? =
      some ((table.select audit).map RunRow.shown) :=
    mapM_eq_some_map fun row hrow =>
      RunRow.toRecord?_eq (h.status row (select_subset table audit hrow))
  simp [Database.listRuns, hread]

/-- The rows of an audit show the runs of the audit that are kept. -/
theorem map_shown_select (h : table.Follows log) (audit : String) :
    (table.select (some audit)).map RunRow.shown = log.kept.filter (·.audit == audit) := by
  rw [← h.shown, List.filter_map]
  rfl

/-- There is a run with a number exactly if one with this number is kept. -/
theorem has_iff (h : table.Follows log) (id : Int) :
    table.has id = true ↔ ∃ run ∈ log.kept, run.id = some id := by
  rw [← h.shown]
  simp [has, RunRow.shown]

/-- The number of the next run is the one after those that were given. -/
theorem nextId?_eq (h : table.Follows log) :
    table.nextId? =
      if (log.numbers.length : Int) < maxRowId then some (log.numbers.length + 1 : Int) else none := by
  have hused : table.usedId = table.lastId := by
    refine usedRowId_eq ?_ ?_
    · rw [h.last]
      omega
    · intro id hid
      obtain ⟨row, hrow, rfl⟩ := List.mem_map.mp hid
      exact h.given row hrow
  rw [nextId?, hused, h.last, nextRowId?]

/-- A run that is recorded gets a number above all numbers so far. -/
theorem add (h : table.Follows log) {id : Int} (hid : table.nextId? = some id)
    (record : RunRecord) :
    (table.add id record).Follows (log ++ [(.insertRun record, .number id)]) := by
  obtain ⟨habove, hlast⟩ := lt_of_nextId?_eq_some hid
  have hnumber : id = log.numbers.length + 1 := by
    rw [h.nextId?_eq] at hid
    split at hid
    · exact (Option.some.inj hid).symm
    · cases hid
  refine ⟨?_, ?_, ?_, ?_, ?_, ?_⟩
  · rw [StoreLog.kept_append, ← h.shown]
    simp [RunTable.add, StoreLog.kept, StoreLog.removes, RunRow.shown]
  · intro row hrow
    rcases List.mem_append.mp hrow with hold | hnew
    · exact h.status row hold
    · rw [List.mem_singleton.mp hnew]
  · intro row hrow
    rcases List.mem_append.mp hrow with hold | hnew
    · exact Int.le_of_lt (habove row hold)
    · rw [List.mem_singleton.mp hnew]
      exact Int.le_refl id
  · rw [StoreLog.numbers_concat]
    refine List.pairwise_append.mpr ⟨h.increasing, List.pairwise_singleton _ _, ?_⟩
    intro earlier hearlier new hnew
    rw [List.mem_singleton.mp hnew]
    exact Int.lt_of_le_of_lt (h.bounded earlier hearlier) hlast
  · intro earlier hearlier
    rw [StoreLog.numbers_concat] at hearlier
    rcases List.mem_append.mp hearlier with hold | hnew
    · exact Int.le_of_lt (Int.lt_of_le_of_lt (h.bounded earlier hold) hlast)
    · exact Int.le_of_eq (List.mem_singleton.mp hnew)
  · rw [StoreLog.numbers_concat, List.length_append]
    exact hnumber

/-- A run that is removed is no longer kept, and the numbers given so far stay as they are. -/
theorem delete (h : table.Follows log) (id : Int) :
    RunTable.Follows { table with rows := table.rows.filter (·.id != id) }
      (log ++ [(.deleteRun id, .done)]) where
  shown := by
    rw [StoreLog.kept_append, ← h.shown, List.filter_map]
    simp [StoreLog.kept, StoreLog.removes, RunRow.shown, Function.comp_def, bne, Bool.beq_comm]
  status row hrow := h.status row (List.mem_of_mem_filter hrow)
  given row hrow := h.given row (List.mem_of_mem_filter hrow)
  increasing := by
    rw [StoreLog.numbers_concat]
    simpa [StoreLog.number?] using h.increasing
  bounded := by
    rw [StoreLog.numbers_concat]
    simpa [StoreLog.number?] using h.bounded
  last := by
    rw [StoreLog.numbers_concat]
    simpa [StoreLog.number?] using h.last

/-- Any other step leaves the table in line with the log. -/
theorem frame (h : table.Follows log) {entry : StoreStep × StoreAnswer}
    (hnumber : StoreLog.number? entry = none) (hremoves : ∀ id, StoreLog.removes id entry = false) :
    table.Follows (log ++ [entry]) where
  shown := by rw [StoreLog.kept_concat_of_frame hnumber hremoves, h.shown]
  status := h.status
  given := h.given
  increasing := by
    rw [StoreLog.numbers_concat, hnumber]
    simpa using h.increasing
  bounded := by
    rw [StoreLog.numbers_concat, hnumber]
    simpa using h.bounded
  last := by
    rw [StoreLog.numbers_concat, hnumber]
    simpa using h.last

end RunTable.Follows

namespace OutcomeTable.Follows

variable {table : OutcomeTable} {log : StoreLog}

theorem usedId_eq (h : table.Follows log) : table.usedId = log.written.length := by
  rw [usedId, h.last]
  refine usedRowId_eq (by omega) ?_
  intro id hid
  obtain ⟨row, hrow, rfl⟩ := List.mem_map.mp hid
  rw [h.rows] at hrow
  have hlt := OutcomeRow.id_lt_of_mem_ofRecords hrow
  omega

/-- There are numbers left for outcomes exactly if there are for all that will have been recorded. -/
theorem hasRoom_iff (h : table.Follows log) (count : Nat) :
    table.HasRoom count ↔ (log.written.length : Int) + count ≤ maxRowId := by
  have hbound := h.bounded
  rw [HasRoom, h.usedId_eq]
  omega

/-- Outcomes that are recorded stand at the end, under the next numbers. -/
theorem append (h : table.Follows log) {records : List OutcomeRecord}
    (hroom : table.HasRoom records.length) (count : Nat) :
    (table.append records).Follows (log ++ [(.insertOutcomes records, .written count)]) := by
  have hwritten : StoreLog.written (log ++ [(.insertOutcomes records, .written count)]) =
      log.written ++ records := StoreLog.written_concat log _
  have hbound := (h.hasRoom_iff _).mp hroom
  refine ⟨?_, ?_, ?_⟩
  · rw [hwritten, rows_append, OutcomeRow.ofRecords_append, h.rows, h.usedId_eq, Int.add_comm]
  · rw [hwritten, List.length_append, Int.natCast_add]
    cases records with
    | nil => simpa [append_nil] using h.last
    | cons record rest => exact congrArg (· + _) h.usedId_eq
  · rwa [hwritten, List.length_append, Int.natCast_add]

/-- Any other step leaves the table in line with the log. -/
theorem frame (h : table.Follows log) {entry : StoreStep × StoreAnswer}
    (houtcomes : StoreLog.outcomes entry = []) : table.Follows (log ++ [entry]) := by
  have hwritten : StoreLog.written (log ++ [entry]) = log.written := by
    rw [StoreLog.written_concat, houtcomes, List.append_nil]
  refine ⟨by rw [hwritten, h.rows], by rw [hwritten, h.last], ?_⟩
  rw [hwritten]
  exact h.bounded

end OutcomeTable.Follows

namespace Database.Follows

variable {log : StoreLog} {db : Database}

/-- A step whose entry tells nothing new may leave the database alone. -/
theorem frame (h : db.Follows log) {entry : StoreStep × StoreAnswer}
    (hnumber : StoreLog.number? entry = none) (hremoves : ∀ id, StoreLog.removes id entry = false)
    (houtcomes : StoreLog.outcomes entry = []) : db.Follows (log ++ [entry]) := by
  obtain ⟨runs, outcomes, hruns, hwritten⟩ := h
  exact .current runs outcomes (hruns.frame hnumber hremoves) (hwritten.frame houtcomes)

/-- A database of the current version stays as it is when it is opened. -/
theorem run_migrate (h : db.Follows log) : (Database.migrate true).run db = (.ok (), db) := by
  cases h
  rfl

/-- All runs are those that the log keeps. -/
theorem listRuns_none (h : db.Follows log) : db.listRuns none = .ok log.kept := by
  obtain ⟨runs, outcomes, hruns, _⟩ := h
  rw [hruns.listRuns_eq, RunTable.select, hruns.shown]

/-- The runs of an audit are those of this audit that the log keeps. -/
theorem listRuns_some (h : db.Follows log) (audit : String) :
    db.listRuns (some audit) = .ok (log.kept.filter (·.audit == audit)) := by
  obtain ⟨runs, outcomes, hruns, _⟩ := h
  rw [hruns.listRuns_eq, hruns.map_shown_select]

/-- The latest run of an audit is the last one of this audit that the log keeps. -/
theorem latestRun_eq (h : db.Follows log) (audit : String) :
    db.latestRun audit = .ok (log.kept.filter (·.audit == audit)).getLast? := by
  obtain ⟨runs, outcomes, hruns, _⟩ := h
  rw [← hruns.map_shown_select, List.getLast?_map, latestRun]
  cases hlast : (runs.select (some audit)).getLast? with
  | none => simp [hlast]
  | some row =>
    have hrow : row ∈ runs.rows :=
      runs.select_subset (some audit) (List.mem_of_getLast? hlast)
    simp [hlast, RunRow.toRecord?_eq (hruns.status row hrow)]

/-- The number of runs is the number of those that the log keeps. -/
theorem countRuns_eq (h : db.Follows log) : db.countRuns = .ok log.kept.length := by
  obtain ⟨runs, outcomes, hruns, _⟩ := h
  rw [← hruns.shown, List.length_map]
  rfl

end Database.Follows

/-! ## Steps and histories -/

namespace StoreFile

variable {α : Type} {db next : Database} {result : α} {error : StoreError}

theorem change_of_run_eq_ok {work : StoreWork α} (h : work.run db = (.ok result, next))
    (answer : α → StoreAnswer) :
    (database db).change work answer = (answer result, database next) := by
  simp only [change, perform, h]

theorem change_of_run_eq_error {work : StoreWork α} (h : work.run db = (.error error, next))
    (answer : α → StoreAnswer) :
    (database db).change work answer = (.refused error, database next) := by
  simp only [change, perform, h]

theorem ask_of_eq_ok {question : Database → Except StoreError α} (h : question db = .ok result)
    (answer : α → StoreAnswer) :
    (database db).ask question answer = (answer result, database db) := by
  simp [ask, use, h]

/-- A question leaves the file as it is, whether it is answered or refused. -/
@[simp]
theorem ask_file (file : StoreFile) (question : Database → Except StoreError α)
    (answer : α → StoreAnswer) : (file.ask question answer).2 = file := by
  unfold ask
  cases file.use question <;> rfl

end StoreFile

namespace StoreStep

variable {log : StoreLog} {db : Database}

/-- A step is answered as the log tells. -/
theorem answeredBy_run (h : db.Follows log) (step : StoreStep) :
    step.AnsweredBy log (step.run (.database db)).1 := by
  cases step with
  | reopen =>
    rw [run, StoreFile.change_of_run_eq_ok h.run_migrate]
    rfl
  | insertRun record =>
    obtain ⟨runs, outcomes, hruns, _⟩ := h
    have hnext := hruns.nextId?_eq
    rw [AnsweredBy, run]
    split at hnext
    · next hleft =>
      rw [StoreFile.change_of_run_eq_ok (Database.run_insertRun _ _ hnext), if_pos hleft]
    · next hfull =>
      rw [StoreFile.change_of_run_eq_error (Database.run_insertRun_refused _ _ (.inr hnext)),
        if_neg hfull]
  | listRuns audit =>
    cases audit with
    | none =>
      rw [run, StoreFile.ask_of_eq_ok h.listRuns_none]
      rfl
    | some audit =>
      rw [run, StoreFile.ask_of_eq_ok (h.listRuns_some audit)]
      rfl
  | latestRun audit =>
    rw [run, StoreFile.ask_of_eq_ok (h.latestRun_eq audit)]
    rfl
  | countRuns =>
    rw [run, StoreFile.ask_of_eq_ok h.countRuns_eq]
    rfl
  | deleteRun id =>
    obtain ⟨runs, outcomes, _, _⟩ := h
    rfl
  | insertOutcomes records => trivial
  | loadOutcomes runId => trivial

/-- One step keeps a database in line with the log. -/
theorem follows_run (h : db.Follows log) (step : StoreStep) :
    ∃ next, (step.run (.database db)).2 = .database next ∧
      next.Follows (log ++ [(step, (step.run (.database db)).1)]) := by
  cases step with
  | reopen =>
    rw [run, StoreFile.change_of_run_eq_ok h.run_migrate]
    exact ⟨db, rfl, h.frame rfl (fun _ => rfl) rfl⟩
  | insertRun record =>
    obtain ⟨runs, outcomes, hruns, hwritten⟩ := h
    rw [run]
    cases hnext : runs.nextId? with
    | some id =>
      rw [StoreFile.change_of_run_eq_ok (Database.run_insertRun _ _ hnext)]
      exact ⟨_, rfl, .current _ outcomes (hruns.add hnext record) (hwritten.frame rfl)⟩
    | none =>
      rw [StoreFile.change_of_run_eq_error (Database.run_insertRun_refused _ _ (.inr hnext))]
      have hsame := Database.Follows.current runs outcomes hruns hwritten
      exact ⟨_, rfl, hsame.frame rfl (fun _ => rfl) rfl⟩
  | insertOutcomes records =>
    -- The outcomes are noted in the log exactly if all of them were recorded.
    obtain ⟨runs, outcomes, hruns, hwritten⟩ := h
    rw [run]
    by_cases hall : (∀ record ∈ records, runs.has record.runId = true) ∧
        outcomes.HasRoom records.length
    · rw [StoreFile.change_of_run_eq_ok (Database.run_insertOutcomes hall.1 hall.2)]
      exact ⟨_, rfl, .current runs _ (hruns.frame rfl fun _ => rfl) (hwritten.append hall.2 _)⟩
    · have hsome : (∃ record ∈ records, runs.has record.runId = false) ∨
          ¬outcomes.HasRoom records.length := by
        by_contra hnot
        obtain ⟨hnone, hroom⟩ := not_or.mp hnot
        exact hall ⟨by simpa using hnone, not_not.mp hroom⟩
      rw [StoreFile.change_of_run_eq_error (Database.run_insertOutcomes_refused hsome)]
      have hsame := Database.Follows.current runs outcomes hruns hwritten
      exact ⟨_, rfl, hsame.frame rfl (fun _ => rfl) rfl⟩
  | listRuns audit => exact ⟨db, by simp [run], h.frame rfl (fun _ => rfl) rfl⟩
  | latestRun audit => exact ⟨db, by simp [run], h.frame rfl (fun _ => rfl) rfl⟩
  | loadOutcomes runId => exact ⟨db, by simp [run], h.frame rfl (fun _ => rfl) rfl⟩
  | countRuns => exact ⟨db, by simp [run], h.frame rfl (fun _ => rfl) rfl⟩
  | deleteRun id =>
    obtain ⟨runs, outcomes, hruns, hwritten⟩ := h
    exact ⟨_, rfl, .current _ outcomes (hruns.delete id) (hwritten.frame rfl)⟩

end StoreStep

theorem storeHistory_concat (steps : List StoreStep) (step : StoreStep) :
    storeHistory (steps ++ [step]) = extendHistory (storeHistory steps) step := by
  rw [storeHistory, ← List.cons_append, List.foldl_append]
  rfl

/-- After any steps on a fresh file the file is a database that holds what the log tells. -/
theorem storeHistory_follows (steps : List StoreStep) :
    ∃ db, (storeHistory steps).2 = .database db ∧ db.Follows (storeHistory steps).1 := by
  induction steps using List.reverseRecOn with
  | nil =>
    refine ⟨_, rfl, .current ⟨[], 0, true⟩ ⟨[], 0, true⟩ ⟨rfl, ?_, ?_, List.Pairwise.nil, ?_, rfl⟩
      ⟨rfl, rfl, by decide⟩⟩
    · exact fun row hrow => absurd hrow List.not_mem_nil
    · exact fun row hrow => absurd hrow List.not_mem_nil
    · exact fun id hid => absurd hid List.not_mem_nil
  | append_singleton steps step ih =>
    obtain ⟨db, hfile, hfollows⟩ := ih
    rw [storeHistory_concat, extendHistory, hfile]
    exact step.follows_run hfollows

/-- Every step is in the log, in order. -/
theorem storeHistory_steps (steps : List StoreStep) :
    (storeHistory steps).1.map Prod.fst = .reopen :: steps := by
  induction steps using List.reverseRecOn with
  | nil => rfl
  | append_singleton steps step ih =>
    rw [storeHistory_concat, extendHistory, List.map_append, ih]
    rfl

/-- Every step of a history is answered as the log before it tells. -/
theorem storeHistory_answeredBy (steps : List StoreStep) {before after : StoreLog}
    {step : StoreStep} {answer : StoreAnswer}
    (h : (storeHistory steps).1 = before ++ (step, answer) :: after) :
    step.AnsweredBy before answer := by
  induction steps using List.reverseRecOn generalizing after with
  | nil =>
    -- The log has the first opening alone.
    cases before with
    | nil =>
      cases h
      rfl
    | cons entry before =>
      have hlength := congrArg List.length h
      simp [storeHistory, extendHistory] at hlength
  | append_singleton steps last ih =>
    rw [storeHistory_concat, extendHistory] at h
    -- The entry is that of the last step, or it stands in the log of the steps before.
    rcases List.eq_nil_or_concat after with rfl | ⟨after, entry, rfl⟩
    · obtain ⟨hlog, hentry⟩ := List.append_inj' h rfl
      cases hentry
      obtain ⟨db, hfile, hfollows⟩ := storeHistory_follows steps
      rw [hfile, ← hlog]
      exact StoreStep.answeredBy_run hfollows _
    · rw [List.concat_eq_append, ← List.cons_append, ← List.append_assoc] at h
      exact ih (List.append_inj' h rfl).1

/-- On a store that is opened in a fresh file, whatever steps are taken: each step gets one answer,
the numbers given to runs increase, and every answer about runs is told by the log of the steps
before it. A run gets the next number until the numbers are used up. The runs are those that were
recorded and not removed since, in order, each with its number and otherwise as it was recorded; the
runs of an audit are those of this audit among them, its latest run is the last of these, and the
count is the number of all. -/
theorem storeHistory_answers (steps : List StoreStep) :
    (storeHistory steps).1.map Prod.fst = .reopen :: steps ∧
    (storeHistory steps).1.numbers.Pairwise (· < ·) ∧
    ∀ before step answer after, (storeHistory steps).1 = before ++ (step, answer) :: after →
      step.AnsweredBy before answer := by
  refine ⟨storeHistory_steps steps, ?_, fun before step answer after h =>
    storeHistory_answeredBy steps h⟩
  obtain ⟨db, _, runs, outcomes, hruns, _⟩ := storeHistory_follows steps
  exact hruns.increasing

/-- A run as a program gives it to a store, with a number of its own choice. -/
def nightlyRun : RunRecord :=
  { id := some 40, audit := "nightly", signature := "f()", standard := "erc-2612-permit",
    profile := "default", specHash := "", sources := "src", status := .succeeded, startedAt := "",
    finishedAt := "", files := 1, full := 0, partly := 1 }

/-- The number of a removed run is not given again, and the next run is the latest one. -/
theorem storeHistory_answers_newest_removed :
    let log := (storeHistory [.insertRun nightlyRun, .insertRun nightlyRun, .deleteRun 2,
      .insertRun nightlyRun, .latestRun "nightly"]).1
    let latest := StoreAnswer.run (some { nightlyRun with id := some 3 })
    log.numbers = [1, 2, 3] ∧ log.numbers.Pairwise (· < ·) ∧
      log = log.take 5 ++ [(.latestRun "nightly", latest)] ∧
      (StoreStep.latestRun "nightly").AnsweredBy (log.take 5) latest :=
  have hanswers := storeHistory_answers [.insertRun nightlyRun, .insertRun nightlyRun, .deleteRun 2,
      .insertRun nightlyRun, .latestRun "nightly"]
  ⟨rfl, hanswers.2.1, rfl, hanswers.2.2 _ _ _ [] rfl⟩

end TokenAudit
