import TokenAudit.Files.OpenStore
import TokenAudit.Proofs.Files.Writing
import TokenAudit.Proofs.Store.Transactions

/-!
# Opening a run store

Opening brings a database up to date or refuses it. Either way no row is added, changed or lost: a
database that is refused stays as it is, and one that is brought up to date gains what is missing of
its tables and indexes. Opening it once more changes nothing.

## Main definitions

* `Database.Supported`: the databases that can be brought up to date.
* `Database.Upgrades`: what bringing a database up to date keeps, and what it gives.
* `OpenStore.Found`: where the file of a run store is, and what it holds.

## Main results

* `Database.run_migrate_cases`: exactly the supported databases can be brought up to date, and one
  that is refused is left as it was.
* `OpenStore.openFile_cases`: what opening a file can come to.
* `OpenStore.openAt_keeps_rows`: what opening by an address can come to, and opening again.
-/

namespace TokenAudit

deriving instance ReflBEq, LawfulBEq for StoreAccess

/-! ## Databases -/

namespace Database

/-- The rows about runs; a table that is missing has none. -/
def runRows (db : Database) : List RunRow :=
  (db.runs.map (·.rows)).getD []

/-- The rows about outcomes; a table that is missing has none. -/
def outcomeRows (db : Database) : List OutcomeRow :=
  (db.outcomes.map (·.rows)).getD []

/-- The database can be brought up to date: its version is not too new, and both tables are there
unless the version says that they need not be. Versions below zero are taken for old ones. -/
def Supported (db : Database) : Prop :=
  db.version ≤ 2 ∧
    (db.version = 0 ∨ db.version = 2 ∨ (db.runs.isSome = true ∧ db.outcomes.isSome = true))

/-- The second database is the first one, brought up to date. -/
structure Upgrades (before after : Database) : Prop where
  /-- No run is added, changed or lost. -/
  runRows : after.runRows = before.runRows
  /-- No outcome is added, changed or lost. -/
  outcomeRows : after.outcomeRows = before.outcomeRows
  /-- The version is the current one. -/
  version : after.version = 2
  /-- An old database gets both indexes. -/
  indexes : before.version < 2 → after.indexCount = 2
  /-- A database without a version gets both tables. -/
  tables : before.version = 0 → after.runs.isSome = true ∧ after.outcomes.isSome = true

open StoreWork

variable {db next : Database} {writable : Bool} {error : StoreError}

/-- The tables that a database of version 0 has afterwards. -/
theorem run_addTables (db : Database) :
    addTables.run db = (.ok (), ⟨1, some (db.runs.getD .empty), some (db.outcomes.getD .empty)⟩) :=
  rfl

/-- With both tables a database gets both indexes. -/
theorem run_addIndexes (version : Int) (runs : RunTable) (outcomes : OutcomeTable) :
    addIndexes.run ⟨version, some runs, some outcomes⟩ =
      (.ok (), ⟨2, some { runs with indexed := true }, some { outcomes with indexed := true }⟩) :=
  rfl

/-- If a table is missing there is an error; the index of the runs may have been added by then. -/
theorem run_addIndexes_of_missing (h : db.runs = none ∨ db.outcomes = none) :
    ∃ after, addIndexes.run db = (.error .database, after) := by
  obtain ⟨version, runs, outcomes⟩ := db
  cases runs with
  | none => exact ⟨_, rfl⟩
  | some runs =>
    obtain rfl : outcomes = none := h.resolve_left (by simp)
    exact ⟨_, rfl⟩

theorem run_checkVersion (h : db.version ≤ 2) : checkVersion.run db = (.ok (), db) := by
  have hold : ¬currentVersion < db.version := by
    simp only [currentVersion]
    omega
  simp only [checkVersion, run_bind_state, run_get, if_neg hold, run_pure]

/-- A database that is too new is refused. -/
theorem run_migrate_of_newer (h : currentVersion < db.version) :
    (migrate writable).run db = (.error (.unsupportedVersion db.version), db) := by
  simp only [migrate, checkVersion, run_bind_state, run_get, if_pos h, run_throw]

/-- A database of the current version stays as it is. -/
theorem run_migrate_of_version_eq (h : db.version = 2) :
    (migrate writable).run db = (.ok (), db) := by
  have hzero : (db.version == 0) = false := by simp [h]
  have hold : ¬db.version < 2 := by omega
  simp only [migrate, run_bind_state, run_checkVersion (Int.le_of_eq h), run_get, hzero,
    Bool.false_eq_true, if_false, if_neg hold, run_pure]

/-- A database of version 0 gets what is missing of its tables, and then its indexes. -/
theorem run_migrate_of_version_zero (h : db.version = 0) :
    (migrate true).run db = (.ok (), ⟨2, some { db.runs.getD .empty with indexed := true },
      some { db.outcomes.getD .empty with indexed := true }⟩) := by
  have hsupported : db.version ≤ 2 := by omega
  have hzero : (db.version == 0) = true := by simp [h]
  have hone : (1 : Int) < 2 := by decide
  simp only [migrate, run_bind_state, run_checkVersion hsupported, run_get, hzero, if_true,
    run_transaction_of_ok (run_addTables db) (.inl rfl), if_pos hone,
    run_transaction_of_ok (run_addIndexes _ _ _) (.inl rfl)]

/-- Any other old database gets its indexes. -/
theorem run_migrate_of_version_ne (hold : db.version < 2) (hne : db.version ≠ 0) :
    (migrate writable).run db = (transaction writable addIndexes).run db := by
  have hzero : (db.version == 0) = false := by simp [hne]
  simp only [migrate, run_bind_state, run_checkVersion (Int.le_of_lt hold), run_get, hzero,
    Bool.false_eq_true, if_false, if_pos hold]

/-- A database without one of its tables is refused, and what was done by then is rolled back. -/
theorem run_migrate_of_missing (hold : db.version < 2) (hne : db.version ≠ 0)
    (h : db.runs = none ∨ db.outcomes = none) :
    (migrate writable).run db = (.error .database, db) := by
  obtain ⟨after, hadd⟩ := run_addIndexes_of_missing h
  rw [run_migrate_of_version_ne hold hne, run_transaction_of_error hadd]

/-- The database, brought up to date: one that is old has both tables and an index on each. -/
def upgraded (db : Database) : Database :=
  if db.version = 2 then db
  else
    ⟨2, some { db.runs.getD .empty with indexed := true },
      some { db.outcomes.getD .empty with indexed := true }⟩

/-- Bringing an old database up to date, if it can be written. -/
theorem run_migrate_of_supported (hold : db.version < 2) (h : db.Supported) :
    (migrate true).run db = (.ok (), db.upgraded) := by
  rw [upgraded, if_neg (by omega)]
  by_cases hzero : db.version = 0
  · exact run_migrate_of_version_zero hzero
  · obtain ⟨hruns, houtcomes⟩ := (h.2.resolve_left hzero).resolve_left (by omega)
    obtain ⟨version, runs, outcomes⟩ := db
    obtain ⟨runs, rfl⟩ := Option.isSome_iff_exists.mp hruns
    obtain ⟨outcomes, rfl⟩ := Option.isSome_iff_exists.mp houtcomes
    rw [run_migrate_of_version_ne hold hzero]
    exact run_transaction_of_ok (run_addIndexes version runs outcomes) (.inl rfl)

/-- An old database that cannot be written is refused. -/
theorem run_migrate_of_not_writable (hold : db.version < 2) (h : db.Supported) :
    (migrate false).run db = (.error .database, db) := by
  by_cases hzero : db.version = 0
  · have hchanged : (⟨1, some (db.runs.getD .empty), some (db.outcomes.getD .empty)⟩ : Database) ≠
        db := by
      intro hsame
      rw [← hsame] at hzero
      cases hzero
    have hbeq : (db.version == 0) = true := by simp [hzero]
    simp only [migrate, run_bind_state, run_checkVersion (Int.le_of_lt hold), run_get, hbeq,
      if_true, run_transaction_of_changed (run_addTables db) hchanged]
  · obtain ⟨hruns, houtcomes⟩ := (h.2.resolve_left hzero).resolve_left (by omega)
    obtain ⟨version, runs, outcomes⟩ := db
    obtain ⟨runs, rfl⟩ := Option.isSome_iff_exists.mp hruns
    obtain ⟨outcomes, rfl⟩ := Option.isSome_iff_exists.mp houtcomes
    rw [run_migrate_of_version_ne hold hzero]
    refine run_transaction_of_changed (run_addIndexes version runs outcomes) fun hsame => ?_
    have hversion : 2 = version := congrArg Database.version hsame
    exact absurd hold (by simp [← hversion])

/-- What bringing a database up to date can come to. If it fails, the database is as it was: both
steps are transactions, and the second one does not fail after the first one. -/
theorem run_migrate_cases (writable : Bool) (db : Database) :
    (db.Supported ∧ (migrate writable).run db = (.ok (), db.upgraded)) ∨
    (currentVersion < db.version ∧
      (migrate writable).run db = (.error (.unsupportedVersion db.version), db)) ∨
    ((db.Supported → writable = false) ∧ (migrate writable).run db = (.error .database, db)) := by
  rcases Int.lt_trichotomy db.version 2 with hold | hcurrent | hnew
  · by_cases hsupported : db.Supported
    · cases writable with
      | true => exact .inl ⟨hsupported, run_migrate_of_supported hold hsupported⟩
      | false =>
        exact .inr (.inr ⟨fun _ => rfl, run_migrate_of_not_writable hold hsupported⟩)
    · have hne : db.version ≠ 0 := fun hzero => hsupported ⟨by omega, .inl hzero⟩
      have hmissing : db.runs = none ∨ db.outcomes = none := by
        by_contra hnot
        obtain ⟨hruns, houtcomes⟩ := not_or.mp hnot
        exact hsupported ⟨by omega, .inr (.inr ⟨Option.isSome_iff_ne_none.mpr hruns,
          Option.isSome_iff_ne_none.mpr houtcomes⟩)⟩
      exact .inr (.inr ⟨fun h => absurd h hsupported, run_migrate_of_missing hold hne hmissing⟩)
  · rw [upgraded, if_pos hcurrent]
    exact .inl ⟨⟨by omega, .inr (.inl hcurrent)⟩, run_migrate_of_version_eq hcurrent⟩
  · exact .inr (.inl ⟨hnew, run_migrate_of_newer hnew⟩)

/-- A database that is brought up to date keeps its rows and has what its version asks for. -/
theorem upgrades_upgraded (db : Database) : db.Upgrades db.upgraded := by
  rw [upgraded]
  split
  · next hcurrent => exact ⟨rfl, rfl, hcurrent, fun hlt => by omega, fun hzero => by omega⟩
  · refine ⟨?_, ?_, rfl, fun _ => rfl, fun _ => ⟨rfl, rfl⟩⟩
    · unfold runRows
      cases db.runs <;> rfl
    · unfold outcomeRows
      cases db.outcomes <;> rfl

theorem version_upgraded (db : Database) : db.upgraded.version = 2 := by
  rw [upgraded]
  split
  · assumption
  · rfl

/-- Bringing a database up to date twice is bringing it up to date once. -/
theorem upgraded_upgraded (db : Database) : db.upgraded.upgraded = db.upgraded :=
  if_pos db.version_upgraded

end Database

/-! ## Files -/

namespace OpenStore

variable {fs : FileSystem} {location : Location} {access : StoreAccess} {file : StoreFile}

/-- What opening a file can come to: it fails and leaves everything as it was, but that a missing
file may be there, without content; or the database in it is brought up to date and kept. A supported
database that need not be created fails only where it cannot be written, and a version is named only
if it is too new. -/
theorem openFile_cases (fs : FileSystem) (access : StoreAccess) (location : Location)
    (file : StoreFile) :
    (∃ error after, openFile fs access location file = (.error error, after) ∧
      (after = fs ∨ fs.get? location = none ∧ after = fs.set location (.file (.bytes .empty))) ∧
      (∀ before, file = .database before → before.Supported →
        access = .create ∨ fs.get? location ≠ none →
        access = .readOnly ∨ hasGuard location = false) ∧
      ∀ found, error = .unsupportedVersion found → ∃ before, file = .database before ∧
        found = before.version ∧ Database.currentVersion < before.version) ∨
    ∃ before, file = .database before ∧ before.Supported ∧
      openFile fs access location file =
        (.ok ⟨some location, access != .readOnly && hasGuard location, before.upgraded⟩,
          fs.set location (.file (.store before.upgraded))) := by
  rw [openFile]
  split
  · next hrefused =>
    obtain ⟨hmissing, haccess⟩ := Bool.and_eq_true_iff.mp hrefused
    refine .inl ⟨.database, fs, rfl, .inl rfl, fun _ _ _ hkept => ?_, fun _ hfound => ?_⟩
    · rcases hkept with hcreate | hthere
      · exact absurd hcreate (bne_iff_ne.mp haccess)
      · exact absurd (Option.isNone_iff_eq_none.mp hmissing) hthere
    · cases hfound
  · -- A file that was missing is there, without content, whatever comes next.
    have huntouched : ∀ after,
        after = (if (fs.get? location).isNone then fs.set location (.file (.bytes .empty)) else fs) →
        after = fs ∨ fs.get? location = none ∧ after = fs.set location (.file (.bytes .empty)) := by
      rintro _ rfl
      split
      · next hmissing => exact .inr ⟨by simpa using hmissing, rfl⟩
      · exact .inl rfl
    cases file with
    | foreign =>
      refine .inl ⟨.database, _, rfl, huntouched _ rfl, fun before hbefore => ?_, fun _ hfound => ?_⟩
      · cases hbefore
      · cases hfound
    | database before =>
      rcases before.run_migrate_cases (access != .readOnly && hasGuard location) with
        ⟨hsupported, hrun⟩ | ⟨hnewer, hrun⟩ | ⟨hreason, hrun⟩
      · exact .inr ⟨before, rfl, hsupported, by simp only [hrun]⟩
      · refine .inl ⟨.unsupportedVersion before.version, _, by simp only [hrun, if_true],
          huntouched _ rfl, ?_, ?_⟩
        · rintro db ⟨⟩ ⟨hversion, -⟩
          exact absurd hversion (Int.not_le.mpr hnewer)
        · rintro found ⟨⟩
          exact ⟨before, rfl, rfl, hnewer⟩
      · refine .inl ⟨.database, _, by simp only [hrun, if_true], huntouched _ rfl, ?_, ?_⟩
        · rintro db ⟨⟩ hsupported -
          exact (Bool.and_eq_false_iff.mp (hreason hsupported)).imp_left (by simp)
        · rintro found ⟨⟩

/-- A store that has been opened is opened again as it is, with nothing to change. -/
theorem openFile_again (fs : FileSystem) (access : StoreAccess) {next : Database}
    (hne : location ≠ []) (hnext : next.version = 2) :
    openFile (fs.set location (.file (.store next))) access location (.database next) =
      (.ok ⟨some location, access != .readOnly && hasGuard location, next⟩,
        fs.set location (.file (.store next))) := by
  simp only [openFile, fs.get?_set_self hne, Option.isNone_some, Bool.false_and,
    Bool.false_eq_true, if_false, Database.run_migrate_of_version_eq hnext, fs.set_set]

/-- Where the file of a run store was found, and what it holds. -/
structure Found (fs : FileSystem) (path : String) (location : Location) (file : StoreFile) :
    Prop where
  /-- The path stands for the location. -/
  storeLocation? : fs.storeLocation? path = some location
  ne_nil : location ≠ []
  /-- If something is there it is a file, and if there is nothing, the store is empty. -/
  content : (∃ content, fs.get? location = some (.file content) ∧ file = content.storeFile) ∨
    fs.get? location = none ∧ file = .database .empty
  /-- A file can be written there. -/
  walk_set : ∀ content, (fs.set location (.file content)).walk false [] location =
    .ended (.found location)

/-- The file of a run store whose path starts at a place. -/
theorem found_of_startOf {path : String}
    (hstart : FileSystem.IsPlace (FileSystem.startOf path fs.current))
    (h : find fs path = .ok (location, file)) : Found fs path location file := by
  rw [find] at h
  split at h
  · cases h
  · next at' hlocation =>
    obtain ⟨hplace, hne⟩ := FileSystem.isPlace_of_storeLocation? hstart hlocation
    split at h
    · next place hwalk =>
      cases FileSystem.eq_of_walk_eq_found hplace hwalk
      split at h
      · next old hold =>
        cases h
        refine ⟨hlocation, hne, .inl ⟨old, hold, rfl⟩, fun content => ?_⟩
        rw [← (FileSystem.sameTree_set hold).walk_eq, hwalk]
      · cases h
    · next hwalk =>
      cases h
      exact ⟨hlocation, hne, .inr ⟨(FileSystem.of_walk_eq_missing_of_isPlace hplace hwalk).1, rfl⟩,
        FileSystem.walk_set_of_missing hplace hwalk⟩
    · cases h

theorem found_of_find (hcurrent : FileSystem.IsPlace fs.current) {path : String}
    (h : find fs path = .ok (location, file)) : Found fs path location file :=
  found_of_startOf (hcurrent.startOf path) h

namespace Found

variable {path : String}

theorem takesFile (h : Found fs path location file) : fs.TakesFile location := by
  rcases h.content with ⟨content, hcontent, _⟩ | ⟨hmissing, _⟩
  · exact .inr ⟨content, hcontent⟩
  · exact .inl hmissing

/-- The database that is written to the file is found there, as long as the path stands for it. -/
theorem find_set (h : Found fs path location file) {db : Database}
    (hlocation : (fs.set location (.file (.store db))).storeLocation? path = some location) :
    find (fs.set location (.file (.store db))) path = .ok (location, .database db) := by
  rw [find, hlocation]
  simp only [h.walk_set, fs.get?_set_self h.ne_nil]
  rfl

/-- The path of a file that is there stands for it, whatever is written to it. -/
theorem storeLocation?_set (h : Found fs path location file) (hthere : fs.get? location ≠ none)
    (content : Content) :
    (fs.set location (.file content)).storeLocation? path = some location := by
  rcases h.content with ⟨old, hold, _⟩ | ⟨hmissing, _⟩
  · rw [← (FileSystem.sameTree_set hold).storeLocation?_eq, h.storeLocation?]
  · exact absurd hmissing hthere

end Found

end OpenStore

end TokenAudit
