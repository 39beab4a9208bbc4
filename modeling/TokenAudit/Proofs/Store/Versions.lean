import TokenAudit.Proofs.Store.Opening

/-!
# Versions that are refused

A database is refused for its version if the version is newer than the current one. Versions below
zero, which are in no version's range, are not looked at: a database that has both tables is brought
up to date from there as from version 1.

## Main definitions

* `Database.InRange`: the version is one from 0 to the current one.
* `OpenStore.KeepsToRange`: opening succeeds only with a version in this range, and names any other.

## Main results

* `OpenStore.openFile_eq_unsupported_iff`: the version is named exactly if it is too new.
* `OpenStore.openAt_refuses_newer`: what opening comes to for every version, and that it keeps to
  the range exactly for versions from zero on.
-/

namespace TokenAudit

namespace Database

variable {db : Database}

/-- The version is one that is supported: from 0, which has no tables yet, to the current one. -/
def InRange (db : Database) : Prop :=
  0 ≤ db.version ∧ db.version ≤ currentVersion

/-- Both tables are there. -/
def HasTables (db : Database) : Prop :=
  db.runs.isSome = true ∧ db.outcomes.isSome = true

/-- A database of a negative version can be brought up to date exactly if both tables are there. -/
theorem supported_iff_of_neg (h : db.version < 0) : db.Supported ↔ db.HasTables := by
  constructor
  · rintro ⟨-, hzero | htwo | htables⟩
    · omega
    · omega
    · exact htables
  · exact fun htables => ⟨by omega, .inr (.inr htables)⟩

/-- A database that can be brought up to date is not too new. -/
theorem Supported.version_le (h : db.Supported) : db.version ≤ currentVersion :=
  h.1

end Database

namespace OpenStore

variable {fs : FileSystem} {location : Location} {access : StoreAccess} {db : Database}

/-- Where there is a file, or none and so an empty database, opening names a version and changes
nothing exactly if the database is too new. -/
theorem openFile_eq_unsupported_iff {found : Int} (hempty : fs.get? location = none → db = .empty) :
    openFile fs access location (.database db) = (.error (.unsupportedVersion found), fs) ↔
      found = db.version ∧ Database.currentVersion < db.version := by
  constructor
  · intro h
    rcases openFile_cases fs access location (.database db) with
      ⟨error, after, herror, -, -, hnamed⟩ | ⟨before, -, -, hopened⟩
    · rw [herror] at h
      obtain ⟨before, hbefore, hfound⟩ := hnamed found (Except.error.inj (Prod.mk.inj h).1)
      cases hbefore
      exact hfound
    · rw [hopened] at h
      cases h
  · rintro ⟨rfl, hnewer⟩
    have hthere : (fs.get? location).isNone = false := by
      rw [Option.isNone_eq_false_iff, Option.isSome_iff_ne_none]
      intro hmissing
      rw [hempty hmissing] at hnewer
      exact absurd hnewer (by decide)
    -- The file is left as it is, since one was there.
    simp only [openFile, hthere, Database.run_migrate_of_newer hnewer, Bool.false_and,
      Bool.false_eq_true, if_false, if_true]

/-- An address that is kept in a file is opened at the location of the file. -/
theorem openAt_eq_openFile {path : Path} {address : StoreAddress} {file : StoreFile}
    (haddress : StoreAddress.parse? path.text = some address) (hkept : address.isPrivate = false)
    (hfile : find fs address.path = .ok (location, file)) :
    openAt fs path = openFile fs address.access location file := by
  rw [openAt, haddress]
  simp only [hkept, hfile, Bool.false_eq_true, if_false]

/-- Only a database that can be brought up to date is opened. -/
theorem supported_of_openFile {store : OpenStore} {after : FileSystem}
    (h : openFile fs access location (.database db) = (.ok store, after)) : db.Supported := by
  rcases openFile_cases fs access location (.database db) with
    ⟨error, _, herror, -⟩ | ⟨before, hbefore, hsupported, -⟩
  · rw [herror] at h
    cases h
  · cases hbefore
    exact hsupported

/-- A database that can be brought up to date is opened where it can be changed. -/
theorem exists_openFile_of_supported (hthere : fs.get? location ≠ none) (hsupported : db.Supported)
    (haccess : access ≠ .readOnly) (hguard : hasGuard location = true) :
    ∃ store, openFile fs access location (.database db) =
      (.ok store, fs.set location (.file (.store store.db))) ∧ db.Upgrades store.db := by
  rcases openFile_cases fs access location (.database db) with
    ⟨_, _, _, -, hreason, -⟩ | ⟨before, hbefore, -, hopened⟩
  · rcases hreason db rfl hsupported (.inr hthere) with hread | hfull
    · exact absurd hread haccess
    · rw [hguard] at hfull
      cases hfull
  · cases hbefore
    exact ⟨_, hopened, db.upgrades_upgraded⟩

/-- Opening the store at `path` of a database in `fs` succeeds only if the version is in range; with
both tables, any other version is named and nothing is changed. -/
def KeepsToRange (fs : FileSystem) (path : Path) (db : Database) : Prop :=
  ((∃ store after, openAt fs path = (.ok store, after)) → db.InRange) ∧
    (db.HasTables → ¬db.InRange →
      openAt fs path = (.error (.unsupportedVersion db.version), fs))

/-- An opening that names exactly the newer versions and succeeds only for databases that can be
brought up to date keeps to the range exactly if no negative version stands beside both tables. -/
theorem keepsToRange_iff {path : Path}
    (hnamed : openAt fs path = (.error (.unsupportedVersion db.version), fs) ↔
      Database.currentVersion < db.version)
    (hopened : (∃ store after, openAt fs path = (.ok store, after)) → db.Supported) :
    KeepsToRange fs path db ↔ 0 ≤ db.version ∨ ¬db.HasTables := by
  constructor
  · rintro ⟨-, hrefused⟩
    -- A negative version beside both tables would have to be named, and only newer ones are.
    by_contra hnot
    obtain ⟨hnegative, htables⟩ := not_or.mp hnot
    have hnewer := hnamed.mp (hrefused (not_not.mp htables) fun hrange => hnegative hrange.1)
    simp only [Database.currentVersion] at hnewer
    omega
  · intro hversion
    refine ⟨fun h => ⟨?_, (hopened h).version_le⟩, fun htables hrange => hnamed.mpr ?_⟩
    · by_contra hnegative
      -- What is opened at a negative version has both tables.
      have htables := (Database.supported_iff_of_neg (by omega)).mp (hopened h)
      exact hversion.elim hnegative fun hnone => hnone htables
    · have hpositive := hversion.resolve_right (not_not.mpr htables)
      by_contra hcurrent
      exact hrange ⟨hpositive, by omega⟩

/-- Opening the run store of an address that is kept in a file that holds a database. The version is
named and nothing is changed exactly if the database is newer than the current version, and only
databases that are not newer are opened. A database of a negative version that has both tables is
opened where it can be changed, and brought up to date. So opening keeps to the range from 0 to the
current version exactly if the version is not negative, or a table is missing. -/
theorem openAt_refuses_newer {path : Path} {address : StoreAddress}
    (hcurrent : FileSystem.IsPlace fs.current)
    (haddress : StoreAddress.parse? path.text = some address) (hkept : address.isPrivate = false)
    (hfile : find fs address.path = .ok (location, .database db)) :
    (openAt fs path = (.error (.unsupportedVersion db.version), fs) ↔
      Database.currentVersion < db.version) ∧
    ((∃ store after, openAt fs path = (.ok store, after)) →
      db.version ≤ Database.currentVersion) ∧
    (db.version < 0 → db.HasTables → address.access ≠ .readOnly → hasGuard location = true →
      ∃ store, openAt fs path = (.ok store, fs.set location (.file (.store store.db))) ∧
        db.Upgrades store.db) ∧
    (KeepsToRange fs path db ↔ 0 ≤ db.version ∨ ¬db.HasTables) := by
  have hopen := openAt_eq_openFile haddress hkept hfile
  -- Where there is no file, the database that is found is the empty one.
  have hempty : fs.get? location = none → db = .empty := by
    intro hmissing
    rcases (found_of_find hcurrent hfile).content with ⟨content, hcontent, -⟩ | ⟨-, hdb⟩
    · rw [hmissing] at hcontent
      cases hcontent
    · exact StoreFile.database.inj hdb
  have hnamed : openAt fs path = (.error (.unsupportedVersion db.version), fs) ↔
      Database.currentVersion < db.version := by
    rw [hopen, openFile_eq_unsupported_iff hempty]
    exact and_iff_right rfl
  have hopened : (∃ store after, openAt fs path = (.ok store, after)) → db.Supported := by
    rintro ⟨store, after, h⟩
    exact supported_of_openFile (hopen ▸ h)
  refine ⟨hnamed, fun h => (hopened h).version_le, fun hnegative htables haccess hguard => ?_,
    keepsToRange_iff hnamed hopened⟩
  rw [hopen]
  refine exists_openFile_of_supported (fun hmissing => ?_)
    ((Database.supported_iff_of_neg hnegative).mpr htables) haccess hguard
  rw [hempty hmissing] at hnegative
  exact absurd hnegative (by decide)

/-- A database of the given version with both tables, which hold no rows and have no index. -/
def emptyTables (version : Int) : Database :=
  ⟨version, some ⟨[], 0, false⟩, some ⟨[], 0, false⟩⟩

/-- The file system that has this database in one file. -/
def holding (version : Int) : FileSystem :=
  ⟨[(["p.db"], .file (.store (emptyTables version)))], []⟩

theorem parse_holding : StoreAddress.parse? "p.db" = some ⟨"p.db", .create⟩ := by
  decide +kernel

theorem find_holding (version : Int) :
    find (holding version) "p.db" = .ok (["p.db"], .database (emptyTables version)) := by
  have hlocation : (holding version).storeLocation? "p.db" = some ["p.db"] := by rfl
  have hwalk : (holding version).walk false [] ["p.db"] = .ended (.found ["p.db"]) := by rfl
  simp only [find, hlocation, hwalk]
  rfl

/-- A database of version 99 is refused, and stays as it is. -/
theorem openAt_refuses_newer_unknown :
    openAt (holding 99) ⟨"p.db"⟩ = (.error (.unsupportedVersion 99), holding 99) :=
  (openAt_refuses_newer (by decide) parse_holding (by decide +kernel) (find_holding 99)).1.mpr
    (by decide)

/-- A database of version -1 with both tables is opened and brought up to date, where it should be
refused. -/
theorem openAt_accepts_negative :
    (∃ store after, openAt (holding (-1)) ⟨"p.db"⟩ = (.ok store, after) ∧
      store.db.version = Database.currentVersion) ∧
    ¬KeepsToRange (holding (-1)) ⟨"p.db"⟩ (emptyTables (-1)) := by
  have hopen : openAt (holding (-1)) ⟨"p.db"⟩ =
      openFile (holding (-1)) .create ["p.db"] (.database (emptyTables (-1))) :=
    openAt_eq_openFile parse_holding (by decide +kernel) (find_holding (-1))
  have hthere : (holding (-1)).get? ["p.db"] ≠ none := by decide
  have hsupported : (emptyTables (-1)).Supported :=
    (Database.supported_iff_of_neg (by decide)).mpr ⟨rfl, rfl⟩
  obtain ⟨store, hstore, hupgrades⟩ :=
    exists_openFile_of_supported hthere hsupported (by decide : StoreAccess.create ≠ .readOnly) rfl
  rw [← hopen] at hstore
  refine ⟨⟨store, _, hstore, hupgrades.version⟩, fun hkeeps => ?_⟩
  exact absurd (hkeeps.1 ⟨store, _, hstore⟩).1 (by decide)

end OpenStore

end TokenAudit
