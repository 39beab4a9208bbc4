import TokenAudit.Files.FileSystem

/-!
# Where run stores are kept

A run store has an address: a path, or a path written as a `file:` URI with options. The path need not
lead anywhere yet. It is spelled out part by part, and `..` takes back the part before it, whether that
part is there or not; only links are followed. The empty path and `:memory:` stand for a store that is
kept nowhere.
-/

namespace TokenAudit

open Text Unicode

/-- What may be done with a run store. -/
inductive StoreAccess
  /-- It must be there, and nothing is written. -/
  | readOnly
  /-- It must be there. -/
  | existing
  /-- It is created if it is not there. -/
  | create
  /-- It is kept nowhere. -/
  | memory
  deriving Repr, BEq, DecidableEq

namespace StoreAccess

/-- The access with a name. -/
def parse? : String → Option StoreAccess
  | "ro" => some readOnly
  | "rw" => some existing
  | "rwc" => some create
  | "memory" => some memory
  | _ => none

/-- How much an access allows. A store that is kept nowhere allows everything. -/
def rank : StoreAccess → Nat
  | readOnly => 0
  | existing => 1
  | create => 2
  | memory => 3

/-- Narrows an access down to another, which must not allow more unless it is kept nowhere. -/
def narrow? (given wanted : StoreAccess) : Option StoreAccess :=
  if wanted == memory || wanted.rank ≤ given.rank then some wanted else none

end StoreAccess

/-- The address of a run store. -/
structure StoreAddress where
  /-- The path. -/
  path : String
  /-- What may be done with the store. -/
  access : StoreAccess
  deriving Repr, BEq, DecidableEq

namespace StoreAddress

/-! ## Addresses as they are written -/

/-- The bytes of a part of a URI, where a percent sign with two digits stands for a byte. -/
def octets : List Char → List UInt8
  | '%' :: a :: b :: rest =>
    if isHexDigit a && isHexDigit b then UInt8.ofNat (hexNumber [a, b]) :: octets rest
    else (String.singleton '%').toUTF8.toList ++ octets (a :: b :: rest)
  | c :: rest => (String.singleton c).toUTF8.toList ++ octets rest
  | [] => []

/-- The text of a part of a URI; it ends at a zero byte. -/
def decode? (part : List Char) : Option String :=
  String.fromUTF8? (ByteArray.mk ((octets part).takeWhile (· != 0)).toArray)

/-- What stands before and after the first occurrence of a character. -/
def cut (c : Char) (text : List Char) : List Char × List Char :=
  (text.takeWhile (· != c), (text.dropWhile (· != c)).drop 1)

/-- What follows the host in a URI; the host must be this one. -/
def afterHost? : List Char → Option (List Char)
  | '/' :: '/' :: rest =>
    let host := rest.takeWhile (· != '/')
    if host.isEmpty || host == "localhost".toList then some (rest.dropWhile (· != '/')) else none
  | rest => some rest

/-- The ways to reach files by name. -/
def fileSystems : List String :=
  ["unix", "unix-dotfile", "unix-excl", "unix-none"]

/-- Takes an option of a URI into account. Options that are not known do not matter. -/
def withOption? (address : StoreAddress) (name value : String) : Option StoreAddress :=
  match name with
  | "mode" => do
    let access ← address.access.narrow? (← StoreAccess.parse? value)
    return { address with access }
  | "cache" => if value ∈ ["shared", "private"] then some address else none
  | "vfs" =>
    if value ∈ fileSystems then some address
    else if value == "memdb" then some { address with access := .memory }
    else none
  | _ => some address

/-- Takes the options of a URI into account, one after another. -/
def withOptions? : List (List Char) → StoreAddress → Option StoreAddress
  | [], address => some address
  | option :: rest, address => do
    let (name, value) := cut '=' option
    withOptions? rest (← address.withOption? (← decode? name) (← decode? value))

/-- The address that a URI writes, after its scheme. -/
def ofUri? (uri : List Char) : Option StoreAddress := do
  let rest ← afterHost? uri
  let (path, query) := cut '?' (rest.takeWhile (· != '#'))
  withOptions? (splitAt '&' query) ⟨← decode? path, .create⟩

/-- The address that a text writes. A zero character is refused. -/
def parse? (text : String) : Option StoreAddress :=
  let chars := text.toList
  if chars.contains (Char.ofNat 0) then none
  else if "file:".toList.isPrefixOf chars then ofUri? (chars.drop 5)
  else some ⟨text, .create⟩

/-- Whether the store is kept nowhere. -/
def isPrivate (address : StoreAddress) : Bool :=
  address.access == .memory || address.path.isEmpty || address.path == ":memory:"

end StoreAddress

/-! ## Locations -/

namespace FileSystem

/-- Spells a path out from a location, part by part. The result has the location, or a link that has to
be followed with the parts after it; none if something on the way is no directory. -/
def spell? (fs : FileSystem) (location : Location) :
    List String → Option (Location × Option (String × List String))
  | [] => some (location, none)
  | part :: rest =>
    if part.isEmpty || part == "." then spell? fs location rest
    else if part == ".." then spell? fs location.dropLast rest
    else
      match fs.walk false [] (location ++ [part]) with
      | .ended (.found place) =>
        match fs.get? place with
        | some (.link target) => some (location, some (target, rest))
        | _ => spell? fs (location ++ [part]) rest
      | .ended (.missing ..) => spell? fs (location ++ [part]) rest
      | .failed .notFound => spell? fs (location ++ [part]) rest
      | _ => none

/-- Spells a path out and follows at most `links` links. -/
def spellFrom? (fs : FileSystem) : (links : Nat) → Location → List String → Option Location
  | links, location, rest =>
    match fs.spell? location rest with
    | none => none
    | some (location, none) => some location
    | some (directory, some (target, rest)) =>
      match links with
      | 0 => none
      | links + 1 => spellFrom? fs links (startOf target directory) (parts target ++ rest)

/-- How many links the path of a run store may go through. -/
def maxStoreLinks : Nat := 201

/-- How many bytes the absolute path of a run store may have. -/
def maxStorePath : Nat := 504

/-- The location that the path of a run store stands for. -/
def storeLocation? (fs : FileSystem) (path : String) : Option Location := do
  let location ← fs.spellFrom? maxStoreLinks (startOf path fs.current) (parts path)
  if location.isEmpty || maxStorePath < (pathOf location).text.utf8ByteSize then none else some location

end FileSystem

end TokenAudit
