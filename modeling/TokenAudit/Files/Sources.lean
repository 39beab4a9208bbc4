import TokenAudit.Audit.Batch
import TokenAudit.Files.FileSystem

/-!
# Source files

The sources of an audit are a single file, or the files below a directory that have one of the wanted
extensions. Directories that are hidden or hold packages are passed over, and links are not followed.
-/

namespace TokenAudit

open Text

/-- Where sources are looked for. -/
structure SourceRoot where
  /-- The file or directory. -/
  root : Path
  /-- The wanted extensions, in lower case and without dot. -/
  extensions : List String := ["sol"]
  deriving Repr, BEq, DecidableEq

namespace SourceRoot

/-- An extension without leading dots, in lower case. -/
def cleanExtension (extension : String) : String :=
  lower (String.ofList (extension.toList.dropWhile (· == '.')))

/-- The same place with other extensions; empty ones do not count. -/
def withExtensions (source : SourceRoot) (extensions : List String) : SourceRoot :=
  { source with extensions := (extensions.map cleanExtension).filter (· != "") }

/-- Whether a file with this name is wanted. -/
def accepts (source : SourceRoot) (name : String) : Bool :=
  match Path.extensionOf? name with
  | some ext => source.extensions.any (lower · == lower ext)
  | none => false

/-- Directories that are passed over. -/
def isSkipped (name : String) : Bool :=
  name.toList.head? == some '.' || name == "node_modules"

/-- A file as a source. -/
def sourceFile (path : Path) (content : Content) : SourceFile :=
  { path := path.text
    text := match content.text? with
      | some text => .ok text
      | none => .error FileError.notText.message }

/-- What is found below the directory at `location`, if it is a wanted file. -/
def select? (source : SourceRoot) (location : Location) (entry : Location × Node) :
    Option (Path × Content) := do
  let (place, node) := entry
  if !location.isPrefixOf place then none
  let names := place.drop location.length
  let name ← names.getLast?
  if names.dropLast.any isSkipped || !source.accepts name then none
  let .file content := node | none
  return (names.foldl Path.child source.root, content)

/-- The sources, in the order of their paths. -/
def sources (source : SourceRoot) (fs : FileSystem) : Except AuditError (List SourceFile) :=
  match fs.node source.root, fs.locate true source.root with
  | .ok (.file content), _ => .ok [sourceFile source.root content]
  | .ok .dir, .ok location =>
    let found := fs.nodes.filterMap (source.select? location)
    let sorted := found.mergeSort fun a b => !Path.lt b.1 a.1
    .ok (sorted.map fun (path, content) => sourceFile path content)
  | _, _ => .error (.missingDirectory source.root.text)

end SourceRoot

end TokenAudit
