import TokenAudit.Files.StoreAddress
import TokenAudit.Session

/-!
# Open run stores

A run store that is open knows its database and where it is kept. A change is kept as long as the file
is where it was.
-/

namespace TokenAudit

/-- A run store that is open: its database and where it is kept. -/
structure OpenStore where
  /-- The location of the file; none if the store is kept nowhere. -/
  location : Option Location
  /-- Whether changes of the database can be written. -/
  writable : Bool
  /-- The database. -/
  db : Database
  deriving Repr, BEq, DecidableEq

namespace OpenStore

/-- What the file of a run store holds, and where it is; a file that is missing is an empty one. -/
def find (fs : FileSystem) (path : String) : Except StoreError (Location × StoreFile) :=
  match fs.storeLocation? path with
  | none => .error .database
  | some location =>
    match fs.walk false [] location with
    | .ended (.found place) =>
      match fs.get? place with
      | some (.file content) => .ok (location, content.storeFile)
      | _ => .error .database
    | .ended (.missing ..) => .ok (location, .database .empty)
    | _ => .error .database

/-- Whether there is room for the name of the file that guards a change: it has eight characters more. -/
def hasGuard (location : Location) : Bool :=
  location.getLast?.all fun name => name.utf8ByteSize + 8 ≤ 255

/-- Opens the run store at a location and brings it up to date. A file that was missing is there then,
even if that fails, and so is what was committed before it failed. -/
def openFile (fs : FileSystem) (access : StoreAccess) (location : Location) (file : StoreFile) :
    Except StoreError OpenStore × FileSystem :=
  let missing := (fs.get? location).isNone
  let writable := access != .readOnly && hasGuard location
  if missing && access != .create then (.error .database, fs)
  else
    let untouched := if missing then fs.set location (.file (.bytes .empty)) else fs
    match file with
    | .foreign => (.error .database, untouched)
    | .database before =>
      match (Database.migrate writable).run before with
      | (.ok (), db) => (.ok ⟨some location, writable, db⟩, fs.set location (.file (.store db)))
      | (.error error, db) =>
        (.error error, if db = before then untouched else fs.set location (.file (.store db)))

/-- Opens the run store with an address and brings it up to date. -/
def openAt (fs : FileSystem) (path : Path) : Except StoreError OpenStore × FileSystem :=
  match StoreAddress.parse? path.text with
  | none => (.error .database, fs)
  | some address =>
    if address.isPrivate then
      let (result, db) := (Database.migrate true).run .empty
      (result.map fun () => ⟨none, true, db⟩, fs)
    else
      match find fs address.path with
      | .error error => (.error error, fs)
      | .ok (location, file) => openFile fs address.access location file

/-- Works on the database with an address in one transaction, without bringing it up to date. If that
fails, nothing changes but that a file that was missing is there. -/
def update (fs : FileSystem) (path : Path) (work : StoreWork Unit) :
    Except StoreError Unit × FileSystem :=
  match StoreAddress.parse? path.text with
  | none => (.error .database, fs)
  | some address =>
    if address.isPrivate then ((work.run .empty).1, fs)
    else
      match find fs address.path with
      | .error error => (.error error, fs)
      | .ok (location, file) =>
        let missing := (fs.get? location).isNone
        if address.access == .readOnly || (missing && address.access != .create) then
          (.error .database, fs)
        else
          match file.perform (.transaction true work) with
          | (.ok (), .database db) => (.ok (), fs.set location (.file (.store db)))
          | (result, _) =>
            (result, if missing then fs.set location (.file (.bytes .empty)) else fs)

/-- Opens a run store in a session; an error is a cause below `text`. -/
def openIn (text : String) (path : Path) : Session OpenStore := do
  let (result, fs) := openAt (← get) path
  set fs
  Session.checkStore text result

/-- Whether a change of the database can be kept: it may be changed, and its file is still there. -/
def canSave (store : OpenStore) (fs : FileSystem) : Bool :=
  store.writable &&
    match store.location.map fs.get? with
    | none => true
    | some (some (.file _)) => true
    | _ => false

/-- Keeps a changed database. -/
def save (store : OpenStore) (db : Database) (fs : FileSystem) : FileSystem :=
  match store.location with
  | some location => fs.set location (.file (.store db))
  | none => fs

end OpenStore

end TokenAudit
