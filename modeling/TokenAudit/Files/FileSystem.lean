import TokenAudit.Path
import TokenAudit.Store.Database

/-!
# File systems

A file system maps locations, which are lists of names from the root, to files, directories and
symbolic links. Paths are resolved to locations step by step, following links.
-/

namespace TokenAudit

open Text

/-- Why a file operation fails. -/
inductive FileError
  /-- There is nothing there. -/
  | notFound
  /-- There is something there already. -/
  | alreadyExists
  /-- A directory is needed. -/
  | notDirectory
  /-- A file is needed. -/
  | isDirectory
  /-- A name or a path is too long. -/
  | nameTooLong
  /-- Links lead to links without end. -/
  | tooManyLinks
  /-- A path holds a zero character. -/
  | zeroInPath
  /-- The content is not text. -/
  | notText
  deriving Repr, BEq, DecidableEq

/-- The wording of an error. -/
def FileError.message : FileError → String
  | notFound => "No such file or directory (os error 2)"
  | alreadyExists => "File exists (os error 17)"
  | notDirectory => "Not a directory (os error 20)"
  | isDirectory => "Is a directory (os error 21)"
  | nameTooLong => "File name too long (os error 36)"
  | tooManyLinks => "Too many levels of symbolic links (os error 40)"
  | zeroInPath => "file name contained an unexpected NUL byte"
  | notText => "stream did not contain valid UTF-8"

/-- What a file holds. -/
inductive Content
  /-- Bytes. -/
  | bytes (data : ByteArray)
  /-- A database. -/
  | store (db : Database)

namespace Content

instance : DecidableEq Content
  | bytes a, bytes b =>
    if h : a.data = b.data then isTrue (congrArg bytes (ByteArray.ext h))
    else isFalse fun eq => h (congrArg ByteArray.data (bytes.inj eq))
  | store a, store b =>
    if h : a = b then isTrue (congrArg store h) else isFalse fun eq => h (store.inj eq)
  | bytes _, store _ => isFalse nofun
  | store _, bytes _ => isFalse nofun

/-- The content of a text file. -/
def ofText (text : String) : Content :=
  bytes text.toUTF8

/-- The text, if the content is text. -/
def text? : Content → Option String
  | bytes data => String.fromUTF8? data
  | store _ => none

/-- The content when it is opened as a database. -/
def storeFile : Content → StoreFile
  | bytes data => .ofBytes data
  | store db => .database db

end Content

/-- What is found at a location. -/
inductive Node
  /-- A file. -/
  | file (content : Content)
  /-- A directory. -/
  | dir
  /-- A symbolic link. -/
  | link (target : String)
  deriving DecidableEq

/-- The names that lead from the root to something. -/
abbrev Location := List String

/-- Files, directories and links, and the directory where relative paths start. -/
structure FileSystem where
  /-- Everything but the root, each at its location. -/
  nodes : List (Location × Node)
  /-- The current directory. -/
  current : Location

/-- Where a path leads. -/
inductive Resolved
  /-- To something that exists. -/
  | found (location : Location)
  /-- To a name that a directory does not have. `closed` tells whether a separator follows it. -/
  | missing (directory : Location) (name : String) (closed : Bool)
  deriving Repr, BEq, DecidableEq

/-- How far a walk along names comes. -/
inductive Walk
  /-- To its end. -/
  | ended (target : Resolved)
  /-- To a link that has to be followed. -/
  | link (directory : Location) (target : String) (rest : List String)
  /-- To an error. -/
  | failed (error : FileError)
  deriving Repr, BEq, DecidableEq

namespace FileSystem

/-- What is at a location. -/
def get? (fs : FileSystem) (location : Location) : Option Node :=
  if location.isEmpty then some .dir else fs.nodes.lookup location

/-- Puts something at a location. -/
def set (fs : FileSystem) (location : Location) (node : Node) : FileSystem :=
  { fs with nodes := (location, node) :: fs.nodes.filter (·.1 != location) }

/-- Removes what is at a location and everything below it. -/
def erase (fs : FileSystem) (location : Location) : FileSystem :=
  { fs with nodes := fs.nodes.filter fun entry => !location.isPrefixOf entry.1 }

/-! ## Resolving paths -/

/-- The parts of a path between separators. -/
def parts (text : String) : List String :=
  (splitAt '/' text.toList).map String.ofList

/-- Walks from a location along the parts of a path. A link at the very end is followed only if
`follow` says so. -/
def walk (fs : FileSystem) (follow : Bool) (location : Location) : List String → Walk
  | [] => .ended (.found location)
  | part :: rest =>
    if fs.get? location != some .dir then .failed .notDirectory
    else if part.isEmpty || part == "." then walk fs follow location rest
    else if part == ".." then walk fs follow location.dropLast rest
    else if 255 < part.utf8ByteSize then .failed .nameTooLong
    else
      match fs.get? (location ++ [part]) with
      | none =>
        if rest.all (·.isEmpty) then .ended (.missing location part (!rest.isEmpty))
        else .failed .notFound
      | some (.link target) =>
        if rest.isEmpty && !follow then .ended (.found (location ++ [part]))
        else .link location target rest
      | some _ => walk fs follow (location ++ [part]) rest

/-- Where a walk starts that goes along a text. -/
def startOf (text : String) (directory : Location) : Location :=
  if text.toList.head? == some '/' then [] else directory

/-- Walks and follows at most `links` links. -/
def resolveFrom (fs : FileSystem) (follow : Bool) :
    (links : Nat) → Location → List String → Except FileError Resolved
  | links, location, steps =>
    match fs.walk follow location steps with
    | .ended target => .ok target
    | .failed error => .error error
    | .link directory target rest =>
      match links with
      | 0 => .error .tooManyLinks
      | links + 1 =>
        resolveFrom fs follow links (startOf target directory) (parts target ++ rest)

/-- How many links a path may go through. -/
def maxLinks : Nat := 40

/-- Where a path leads. -/
def resolve (fs : FileSystem) (follow : Bool) (path : Path) : Except FileError Resolved :=
  if path.text.toList.contains (Char.ofNat 0) then .error .zeroInPath
  else if path.text.isEmpty then .error .notFound
  else if 4095 < path.text.utf8ByteSize then .error .nameTooLong
  else fs.resolveFrom follow maxLinks (startOf path.text fs.current) (parts path.text)

/-- The location of something that exists. -/
def locate (fs : FileSystem) (follow : Bool) (path : Path) : Except FileError Location := do
  match ← fs.resolve follow path with
  | .found location => return location
  | .missing .. => throw .notFound

/-- What a path leads to, links followed. -/
def node (fs : FileSystem) (path : Path) : Except FileError Node := do
  match fs.get? (← fs.locate true path) with
  | some node => return node
  | none => throw .notFound

/-- Whether a path leads to something. -/
def pathExists (fs : FileSystem) (path : Path) : Bool :=
  (fs.node path).toOption.isSome

/-- Whether a path leads to a directory. -/
def isDir (fs : FileSystem) (path : Path) : Bool :=
  match fs.node path with
  | .ok .dir => true
  | _ => false

/-- The absolute path of a location. -/
def pathOf (location : Location) : Path :=
  ⟨"/" ++ "/".intercalate location⟩

/-- The path of the current directory. -/
def currentPath (fs : FileSystem) : Path :=
  pathOf fs.current

/-- The absolute path, without links, of what a path leads to. -/
def canonicalize (fs : FileSystem) (path : Path) : Except FileError Path := do
  return pathOf (← fs.locate true path)

/-! ## Reading -/

/-- The content of a file. -/
def readContent (fs : FileSystem) (path : Path) : Except FileError Content := do
  match ← fs.node path with
  | .file content => return content
  | _ => throw .isDirectory

/-- The text of a file. -/
def readText (fs : FileSystem) (path : Path) : Except FileError String := do
  match (← fs.readContent path).text? with
  | some text => return text
  | none => throw .notText

/-- The names in a directory with what they stand for, sorted. -/
def entries (fs : FileSystem) (location : Location) : List (String × Node) :=
  let inside := fs.nodes.filterMap fun (place, node) =>
    match place.getLast? with
    | some name => if place.dropLast == location then some (name, node) else none
    | none => none
  inside.mergeSort fun a b => !(b.1 < a.1)

/-! ## Writing -/

/-- Writes a file, a new one if there is none. -/
def writeContent (fs : FileSystem) (path : Path) (content : Content) : Except FileError FileSystem := do
  match ← fs.resolve true path with
  | .found location =>
    match fs.get? location with
    | some (.file _) => return fs.set location (.file content)
    | _ => throw .isDirectory
  | .missing directory name closed =>
    if closed then throw .isDirectory
    return fs.set (directory ++ [name]) (.file content)

/-- Writes a text file. -/
def writeText (fs : FileSystem) (path : Path) (text : String) : Except FileError FileSystem :=
  fs.writeContent path (.ofText text)

/-- Creates a directory in a directory that exists. -/
def createDir (fs : FileSystem) (path : Path) : Except FileError FileSystem := do
  match ← fs.resolve false path with
  | .found _ => throw .alreadyExists
  | .missing directory name _ => return fs.set (directory ++ [name]) .dir

/-- Creates a directory unless there is one; tells whether the directory above is missing. -/
def ensureDir (fs : FileSystem) (path : Path) : Except FileError FileSystem :=
  match fs.createDir path with
  | .ok fs => .ok fs
  | .error .notFound => .error .notFound
  | .error error => if fs.isDir path then .ok fs else .error error

/-- Creates a directory after those above it; `steps` are the steps of its path, last first. What was
created before an error stays. -/
def createAbove : (steps : List Component) → Path → FileSystem → Except FileError Unit × FileSystem
  | [], _, fs => (.ok (), fs)
  | _ :: above, path, fs =>
    match fs.ensureDir path with
    | .ok fs => (.ok (), fs)
    | .error .notFound =>
      match createAbove above (Path.ofComponents above.reverse) fs with
      | (.error error, fs) => (.error error, fs)
      | (.ok _, fs) =>
        match fs.createDir path with
        | .ok fs => (.ok (), fs)
        | .error error => (if fs.isDir path then .ok () else .error error, fs)
    | .error error => (.error error, fs)

/-- Creates a directory and all that are missing above it. What was created before an error stays. -/
def createDirAll (fs : FileSystem) (path : Path) : Except FileError Unit × FileSystem :=
  createAbove path.components.reverse path fs

/-- Removes a directory with everything in it, or a link. -/
def removeDirAll (fs : FileSystem) (path : Path) : Except FileError FileSystem := do
  let location ← fs.locate false path
  match fs.get? location with
  | some (.file _) => throw .notDirectory
  | _ => return fs.erase location

/-- Removes a file, a link, or a directory with everything in it. -/
def remove (fs : FileSystem) (path : Path) : Except FileError FileSystem := do
  return fs.erase (← fs.locate false path)

/-- Creates a link. -/
def createLink (fs : FileSystem) (path : Path) (target : String) : Except FileError FileSystem := do
  if target.isEmpty then throw .notFound
  match ← fs.resolve false path with
  | .found _ => throw .alreadyExists
  | .missing directory name closed =>
    if closed then throw .notFound
    return fs.set (directory ++ [name]) (.link target)

/-- Every path below a location, relative to it and sorted; the paths of directories end with a
separator. -/
def listing (fs : FileSystem) (location : Location) : List String :=
  let below := fs.nodes.filterMap fun (place, node) =>
    if location.isPrefixOf place && place != location then
      let text := "/".intercalate (place.drop location.length)
      some (if node == .dir then text ++ "/" else text)
    else none
  below.mergeSort fun a b => !(b < a)

end FileSystem

end TokenAudit
