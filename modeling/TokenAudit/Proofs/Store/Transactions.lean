import TokenAudit.Proofs.Audit.Sequence
import TokenAudit.Store.Edit

/-!
# Transactions on a run store

What work on a database comes to, from the database it starts with. A transaction that fails leaves
the database as it was, whatever its work had changed by then: an index that was added before another
one could not be, or outcomes that were recorded before one that was refused.

## Main definitions

* `OutcomeTable.append`: the table with more outcomes, under the next numbers.
* `OutcomeTable.HasRoom`: there are numbers left for some outcomes.

## Main results

* `StoreWork.eq_of_run_transaction_eq_error`: a transaction that fails changes nothing.
* `Database.run_insertRun`: recording a run.
* `Database.run_insertOutcomes`: recording outcomes, all or none.
-/

namespace TokenAudit

namespace StoreWork

theorem run_pure {α : Type} (a : α) (db : Database) :
    (pure a : StoreWork α).run db = (.ok a, db) := rfl

theorem run_throw {α : Type} (error : StoreError) (db : Database) :
    (throw error : StoreWork α).run db = (.error error, db) := rfl

theorem run_get (db : Database) : (get : StoreWork Database).run db = (.ok db, db) := rfl

theorem run_set (db next : Database) : (set next : StoreWork Unit).run db = (.ok (), next) := rfl

theorem run_modify (change : Database → Database) (db : Database) :
    (modify change : StoreWork Unit).run db = (.ok (), change db) := rfl

variable {α : Type} {writable : Bool} {work : StoreWork α} {db after : Database} {answer : α}
  {error : StoreError}

/-- Work that has succeeded is committed if what it changed can be written. -/
theorem run_transaction_of_ok (h : work.run db = (.ok answer, after))
    (hwritten : writable = true ∨ after = db) :
    (transaction writable work).run db = (.ok answer, after) := by
  simp only [transaction, ExceptT.run_mk, h]
  exact if_pos hwritten

/-- Changes that cannot be written are taken back. -/
theorem run_transaction_of_changed (h : work.run db = (.ok answer, after)) (hchanged : after ≠ db) :
    (transaction false work).run db = (.error .database, db) := by
  simp only [transaction, ExceptT.run_mk, h]
  exact if_neg (by simpa using hchanged)

/-- Work that has failed is rolled back, whatever it had changed. -/
theorem run_transaction_of_error (h : work.run db = (.error error, after)) :
    (transaction writable work).run db = (.error error, db) := by
  simp only [transaction, ExceptT.run_mk, h]

/-- A transaction that fails changes nothing. -/
theorem eq_of_run_transaction_eq_error
    (h : (transaction writable work).run db = (.error error, after)) : after = db := by
  rcases hwork : work.run db with ⟨inner | answer, next⟩
  · rw [run_transaction_of_error hwork] at h
    exact (Prod.mk.inj h).2.symm
  · by_cases hwritten : writable = true ∨ next = db
    · rw [run_transaction_of_ok hwork hwritten] at h
      cases h
    · obtain ⟨hread, hchanged⟩ := not_or.mp hwritten
      rw [Bool.eq_false_iff.mpr hread, run_transaction_of_changed hwork hchanged] at h
      exact (Prod.mk.inj h).2.symm

end StoreWork

/-! ## Numbers -/

theorem le_usedRowId {ids : List Int} {last id : Int} (h : id ∈ ids) : id ≤ usedRowId ids last := by
  rw [usedRowId]
  cases hmax : ids.max? with
  | none =>
    rw [List.max?_eq_none_iff.mp hmax] at h
    cases h
  | some greatest =>
    have hle : id ≤ greatest := (List.max?_eq_some_iff.mp hmax).2 id h
    exact Int.le_trans hle (Int.le_max_left ..)

/-- The greatest number that was ever given is the greatest one that is used if no row is above. -/
theorem usedRowId_eq {ids : List Int} {last : Int} (hlast : 0 ≤ last) (h : ∀ id ∈ ids, id ≤ last) :
    usedRowId ids last = last := by
  rw [usedRowId]
  refine Int.max_eq_right ?_
  cases hmax : ids.max? with
  | none => exact hlast
  | some greatest => exact h greatest (List.max?_eq_some_iff.mp hmax).1

theorem nextRowId?_eq_some_iff {used id : Int} :
    nextRowId? used = some id ↔ id = used + 1 ∧ id ≤ maxRowId := by
  rw [nextRowId?]
  split
  · simp only [Option.some.injEq]
    omega
  · simp only [reduceCtorEq, false_iff]
    omega

theorem nextRowId?_eq_none_iff {used : Int} : nextRowId? used = none ↔ maxRowId ≤ used := by
  rw [nextRowId?]
  split
  · simp only [reduceCtorEq, false_iff]
    omega
  · simp only [true_iff]
    omega

namespace RunTable

variable {table : RunTable} {id : Int}

/-- The number of the next run is above those of all runs, and one that was never given. -/
theorem lt_of_nextId?_eq_some (h : table.nextId? = some id) :
    (∀ row ∈ table.rows, row.id < id) ∧ table.lastId < id := by
  obtain ⟨hid, _⟩ := nextRowId?_eq_some_iff.mp h
  constructor
  · intro row hrow
    have hle : row.id ≤ table.usedId := le_usedRowId (List.mem_map_of_mem hrow)
    omega
  · have hle : table.lastId ≤ table.usedId := Int.le_max_right ..
    omega

theorem add_ne (table : RunTable) (id : Int) (record : RunRecord) : table.add id record ≠ table := by
  intro h
  have hlength := congrArg (fun table => table.rows.length) h
  simp [add] at hlength

end RunTable

namespace OutcomeRow

/-- The rows of outcomes under numbers from `first` on. -/
def ofRecords (first : Int) : List OutcomeRecord → List OutcomeRow
  | [] => []
  | record :: rest => ofRecord first record :: ofRecords (first + 1) rest

theorem ofRecords_append (first : Int) (records more : List OutcomeRecord) :
    ofRecords first (records ++ more) =
      ofRecords first records ++ ofRecords (first + records.length) more := by
  induction records generalizing first with
  | nil => simp [ofRecords]
  | cons record rest ih =>
    have hnext : first + 1 + (rest.length : Int) = first + ((rest.length + 1 : Nat) : Int) := by
      omega
    rw [List.cons_append, ofRecords, ofRecords, ih, List.cons_append, List.length_cons, hnext]

theorem id_lt_of_mem_ofRecords {first : Int} {records : List OutcomeRecord} {row : OutcomeRow}
    (h : row ∈ ofRecords first records) : row.id < first + records.length := by
  induction records generalizing first with
  | nil => cases h
  | cons record rest ih =>
    rw [List.length_cons]
    rcases List.mem_cons.mp h with rfl | hrest
    · change first < _
      omega
    · have hlt := ih hrest
      omega

end OutcomeRow

namespace OutcomeTable

/-- The table with more outcomes, under the next numbers. -/
def append (table : OutcomeTable) (records : List OutcomeRecord) : OutcomeTable :=
  if records.isEmpty then table
  else
    { table with
      rows := table.rows ++ OutcomeRow.ofRecords (table.usedId + 1) records
      lastId := table.usedId + records.length }

/-- There are numbers left for so many outcomes. -/
def HasRoom (table : OutcomeTable) (count : Nat) : Prop :=
  count = 0 ∨ table.usedId + count ≤ maxRowId

variable (table : OutcomeTable) (record : OutcomeRecord) (records : List OutcomeRecord)

theorem append_nil : table.append [] = table := rfl

theorem rows_append :
    (table.append records).rows =
      table.rows ++ OutcomeRow.ofRecords (table.usedId + 1) records := by
  cases records with
  | nil => exact (List.append_nil _).symm
  | cons record rest => rfl

/-- A new number is the greatest one that is used. -/
theorem usedId_add {id : Int} (h : table.usedId < id) : (table.add id record).usedId = id := by
  have hids : (table.add id record).rows.map (·.id) = table.rows.map (·.id) ++ [id] := by
    simp [add, OutcomeRow.ofRecord]
  have hbound : ∀ other ∈ (table.add id record).rows.map (·.id), other ≤ id := by
    rw [hids]
    intro other hother
    rcases List.mem_append.mp hother with hold | hnew
    · have hle : other ≤ table.usedId := le_usedRowId hold
      omega
    · exact Int.le_of_eq (List.mem_singleton.mp hnew)
  refine Int.le_antisymm (Int.max_le.mpr ⟨?_, Int.le_refl id⟩) (Int.le_max_right ..)
  cases hmax : ((table.add id record).rows.map (·.id)).max? with
  | none =>
    rw [hids, List.max?_eq_none_iff] at hmax
    simp at hmax
  | some greatest => exact hbound greatest (List.max?_eq_some_iff.mp hmax).1

theorem append_cons :
    table.append (record :: records) = (table.add (table.usedId + 1) record).append records := by
  have hused := table.usedId_add record (Int.lt_succ table.usedId)
  cases records with
  | nil => simp [append, add, OutcomeRow.ofRecords]
  | cons next rest =>
    have hlast : table.usedId + 1 + (next :: rest).length =
        table.usedId + (record :: next :: rest).length := by
      simp only [List.length_cons]
      omega
    simp only [append, List.isEmpty_cons, Bool.false_eq_true, if_false, hused, hlast]
    simp [add, OutcomeRow.ofRecords]

end OutcomeTable

/-! ## Databases -/

namespace Database

open StoreWork

variable {writable : Bool} {version : Int} {runs : RunTable} {outcomes : OutcomeTable}

theorem run_addRun {id : Int} (outcomes : Option OutcomeTable) (record : RunRecord)
    (hid : runs.nextId? = some id) :
    (addRun record).run ⟨version, some runs, outcomes⟩ =
      (.ok id, ⟨version, some (runs.add id record), outcomes⟩) := by
  simp only [addRun, run_bind_state, run_get, hid, run_modify, run_pure]

/-- A run is recorded under the next number. -/
theorem run_insertRun {id : Int} (outcomes : Option OutcomeTable) (record : RunRecord)
    (hid : runs.nextId? = some id) :
    (insertRun true record).run ⟨version, some runs, outcomes⟩ =
      (.ok id, ⟨version, some (runs.add id record), outcomes⟩) :=
  run_transaction_of_ok (run_addRun outcomes record hid) (.inl rfl)

/-- A run is refused, and nothing changes, if it cannot be written or the numbers are used up. -/
theorem run_insertRun_refused (outcomes : Option OutcomeTable) (record : RunRecord)
    (h : writable = false ∨ runs.nextId? = none) :
    (insertRun writable record).run ⟨version, some runs, outcomes⟩ =
      (.error .database, ⟨version, some runs, outcomes⟩) := by
  cases hid : runs.nextId? with
  | none =>
    have hfull : (addRun record).run ⟨version, some runs, outcomes⟩ =
        (.error .database, ⟨version, some runs, outcomes⟩) := by
      simp only [addRun, run_bind_state, run_get, hid, run_throw]
    exact run_transaction_of_error hfull
  | some id =>
    obtain rfl : writable = false := h.resolve_right (by simp [hid])
    refine run_transaction_of_changed (run_addRun outcomes record hid) fun hsame => ?_
    exact runs.add_ne id record (Option.some.inj (congrArg Database.runs hsame))

/-- An outcome of a run is added under the next number. -/
theorem run_addOutcome {record : OutcomeRecord} {id : Int} (hid : outcomes.nextId? = some id)
    (hrun : runs.has record.runId = true) :
    (addOutcome record).run ⟨version, some runs, some outcomes⟩ =
      (.ok (), ⟨version, some runs, some (outcomes.add id record)⟩) := by
  simp only [addOutcome, run_bind_state, run_get, hid, hrun, run_modify, if_true]

theorem run_addOutcome_refused {record : OutcomeRecord}
    (h : runs.has record.runId = false ∨ outcomes.nextId? = none) :
    (addOutcome record).run ⟨version, some runs, some outcomes⟩ =
      (.error .database, ⟨version, some runs, some outcomes⟩) := by
  cases hid : outcomes.nextId? with
  | none => simp only [addOutcome, run_bind_state, run_get, hid, run_throw]
  | some id =>
    have hrun := h.resolve_right (by simp [hid])
    simp only [addOutcome, run_bind_state, run_get, hid, hrun, run_throw, Bool.false_eq_true, if_false]

/-- Outcomes of runs are added one after the other while there are numbers left. -/
theorem run_forM_addOutcome {records : List OutcomeRecord}
    (hruns : ∀ record ∈ records, runs.has record.runId = true)
    (hroom : outcomes.HasRoom records.length) :
    (records.forM addOutcome).run ⟨version, some runs, some outcomes⟩ =
      (.ok (), ⟨version, some runs, some (outcomes.append records)⟩) := by
  induction records generalizing outcomes with
  | nil => rfl
  | cons record rest ih =>
    obtain ⟨hrun, hrest⟩ := List.forall_mem_cons.mp hruns
    have hbound := hroom.resolve_left (by simp)
    rw [List.length_cons] at hbound
    have hid : outcomes.nextId? = some (outcomes.usedId + 1) :=
      nextRowId?_eq_some_iff.mpr ⟨rfl, by omega⟩
    have hused := outcomes.usedId_add record (Int.lt_succ outcomes.usedId)
    rw [List.forM, run_bind_state, run_addOutcome hid hrun, outcomes.append_cons]
    refine ih hrest (.inr ?_)
    rw [hused]
    omega

/-- Adding outcomes fails at the first one that belongs to no run or has no number left. -/
theorem run_forM_addOutcome_refused {records : List OutcomeRecord}
    (h : (∃ record ∈ records, runs.has record.runId = false) ∨ ¬outcomes.HasRoom records.length) :
    ∃ after, (records.forM addOutcome).run ⟨version, some runs, some outcomes⟩ =
      (.error .database, after) := by
  induction records generalizing outcomes with
  | nil =>
    rcases h with ⟨_, hmem, _⟩ | hfull
    · cases hmem
    · exact absurd (.inl rfl) hfull
  | cons record rest ih =>
    rw [List.forM, run_bind_state]
    by_cases hfirst : runs.has record.runId = false ∨ outcomes.nextId? = none
    · exact ⟨_, by rw [run_addOutcome_refused hfirst]⟩
    · -- The first one is added, so it is a later one that fails.
      obtain ⟨hrun, hnext⟩ := not_or.mp hfirst
      obtain ⟨id, hid⟩ := Option.ne_none_iff_exists'.mp hnext
      obtain ⟨rfl, hbound⟩ := nextRowId?_eq_some_iff.mp hid
      have hused := outcomes.usedId_add record (Int.lt_succ outcomes.usedId)
      rw [run_addOutcome hid (by simpa using hrun)]
      refine ih ?_
      rcases h with ⟨bad, hbad, hmissing⟩ | hfull
      · rcases List.mem_cons.mp hbad with rfl | hbad
        · exact absurd hmissing hrun
        · exact .inl ⟨bad, hbad, hmissing⟩
      · refine .inr fun hroom => hfull (.inr ?_)
        rw [OutcomeTable.HasRoom, hused] at hroom
        rw [List.length_cons]
        rcases hroom with hzero | hroom
        · omega
        · omega

/-- Outcomes of runs are recorded if there are numbers left for all of them. -/
theorem run_insertOutcomes {records : List OutcomeRecord}
    (hruns : ∀ record ∈ records, runs.has record.runId = true)
    (hroom : outcomes.HasRoom records.length) :
    (insertOutcomes true records).run ⟨version, some runs, some outcomes⟩ =
      (.ok records.length, ⟨version, some runs, some (outcomes.append records)⟩) := by
  have hadd : (addOutcomes records).run ⟨version, some runs, some outcomes⟩ =
      (.ok (), ⟨version, some runs, some (outcomes.append records)⟩) :=
    run_forM_addOutcome hruns hroom
  rw [insertOutcomes, run_bind_state, run_transaction_of_ok hadd (.inl rfl)]
  rfl

/-- Outcomes of which one belongs to no run, or for which there are not enough numbers left, are all
refused, and nothing changes. -/
theorem run_insertOutcomes_refused {records : List OutcomeRecord}
    (h : (∃ record ∈ records, runs.has record.runId = false) ∨ ¬outcomes.HasRoom records.length) :
    (insertOutcomes writable records).run ⟨version, some runs, some outcomes⟩ =
      (.error .database, ⟨version, some runs, some outcomes⟩) := by
  have hadd : ∃ after, (addOutcomes records).run ⟨version, some runs, some outcomes⟩ =
      (.error .database, after) := run_forM_addOutcome_refused h
  obtain ⟨after, hadd⟩ := hadd
  rw [insertOutcomes, run_bind_state, run_transaction_of_error hadd]

end Database

end TokenAudit
