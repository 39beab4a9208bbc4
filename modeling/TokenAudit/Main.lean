import Std.Time.DateTime.Timestamp
import TokenAudit.Command.Reach
import TokenAudit.Instant
import TokenAudit.Store.Text

/-!
# The tool

Reads the files that a request looks at, carries the request out, and writes back what it has
changed.
-/

namespace TokenAudit

/-! ## Reading -/

/-- The current time. -/
def currentInstant : IO Instant := do
  return ⟨(← Std.Time.Timestamp.now).toNanosecondsSinceUnixEpoch.val.toNat⟩

/-- The location of an absolute path. -/
def locationOf (path : String) : Location :=
  (FileSystem.parts path).filter (· != "")

/-- The bytes of a file, as a database if they are one. -/
def contentOf (data : ByteArray) : Content :=
  match (String.fromUTF8? data).bind Database.ofText? with
  | some db => .store db
  | none => .bytes data

/-- The bytes that a content is kept as. -/
def bytesOf : Content → ByteArray
  | .bytes data => data
  | .store db => db.toText.toUTF8

/-- The location that a path leads to in the end, if there is anything. -/
def realLocation (path : String) : IO (Option Location) := do
  try
    return some (locationOf (← IO.FS.realPath path).toString)
  catch _ => return none

/-- Reads one name of a directory. What is neither a file nor a directory nor a link that leads
somewhere is left out. -/
def readNode (directory : Location) (name : String) : IO (Option Node) := do
  let entry : IO.FS.DirEntry := ⟨(FileSystem.pathOf directory).text, name⟩
  try
    match (← entry.path.symlinkMetadata).type with
    | .dir => return some .dir
    | .file => return some (.file (contentOf (← IO.FS.readBinFile entry.path)))
    | .symlink =>
      return (← realLocation entry.path.toString).map fun target =>
        .link (FileSystem.pathOf target).text
    | .other => return none
  catch _ => return none

/-- Adds a directory and those above it. -/
def addDirs (fs : FileSystem) (location : Location) : FileSystem :=
  (List.range location.length).foldl (fun fs i =>
    let above := location.take (i + 1)
    if (fs.get? above).isSome then fs else fs.set above .dir) fs

/-- Adds one name of a directory. -/
def addName (fs : FileSystem) (directory : Location) (name : String) : IO FileSystem := do
  let fs := addDirs fs directory
  if (fs.get? (directory ++ [name])).isSome then return fs
  match ← readNode directory name with
  | some node => return fs.set (directory ++ [name]) node
  | none => return fs

/-- Adds everything below a location. -/
partial def addBelow (fs : FileSystem) (location : Location) : IO FileSystem := do
  if fs.get? location != some .dir then return fs
  let mut fs := fs
  for entry in ← (← IO.FS.realPath (FileSystem.pathOf location).text).readDir do
    fs ← addName fs location entry.fileName
    fs ← addBelow fs (location ++ [entry.fileName])
  return fs

/-- Adds everything on the way to a path, and everything below it. -/
def addPath (fs : FileSystem) (path : Path) : IO FileSystem := do
  let mut fs := fs
  let mut way := if path.text.startsWith "/" then "/" else (FileSystem.pathOf fs.current).text ++ "/"
  for part in FileSystem.parts path.text do
    if let some directory ← realLocation way then
      if part ∉ ["", ".", ".."] then fs ← addName fs directory part
    way := way ++ part ++ "/"
  match ← realLocation path.text with
  | some (name :: names) =>
    let location := name :: names
    addBelow (← addName fs location.dropLast (location.getLastD "")) location
  | _ => return fs

/-- The files that a request looks at. What the first of them say may add others. -/
def readFiles (request : Request) : IO FileSystem := do
  let current := locationOf (← IO.FS.realPath ".").toString
  let mut fs := addDirs ⟨[], current⟩ current
  for _ in [0, 1] do
    for path in request.reach fs do
      fs ← addPath fs path
  return fs

/-! ## Writing -/

/-- Whether a node can stand in for another without that one being removed first. -/
def keepsKind : Node → Option Node → Bool
  | .dir, some .dir => true
  | .file _, some (.file _) => true
  | .link _, some (.link _) => true
  | _, _ => false

/-- Removes what is gone, unless it goes with the directory that holds it. -/
def removeGone (before after : FileSystem) : IO Unit := do
  for (location, node) in before.nodes do
    if !keepsKind node (after.get? location) && after.get? location.dropLast == some .dir then
      match node with
      | .dir => IO.FS.removeDirAll (FileSystem.pathOf location).text
      | _ => IO.FS.removeFile (FileSystem.pathOf location).text

/-- Writes what is new or changed, directories before what they hold. -/
def writeChanged (before after : FileSystem) : IO Unit := do
  for (location, node) in after.nodes.mergeSort fun a b => a.1.length ≤ b.1.length do
    let path := (FileSystem.pathOf location).text
    if before.get? location != some node then
      match node with
      | .dir => IO.FS.createDir path
      | .file content => IO.FS.writeBinFile path (bytesOf content)
      | .link _ => pure ()

/-- Runs the tool. -/
def runTool (args : List String) : IO UInt32 := do
  let now := (← currentInstant).toText
  let before ← match Request.parse args with
    | .ok request => readFiles request
    | .error _ => pure ⟨[], []⟩
  let (exit, after) := invoke ⟨now, now⟩ args before
  removeGone before after
  writeChanged before after
  IO.print exit.output
  if let some stop := exit.stop then IO.eprint (unlines stop.lines)
  if exit.code == 2 then IO.eprint HelpTopic.tool.text
  return exit.code.toUInt32

end TokenAudit

/-- Runs the tool with the arguments of the command line. -/
def main (args : List String) : IO UInt32 :=
  TokenAudit.runTool args
