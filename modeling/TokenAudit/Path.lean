import TokenAudit.Text.Words

/-!
# Paths

A path is kept as it is written; what it means is its list of components. Repeated separators, a
trailing separator, and dots after the first component carry no meaning.
-/

namespace TokenAudit

open Text

/-- A path to a file or directory. -/
structure Path where
  /-- The path as it is written. -/
  text : String
  deriving Repr, BEq, DecidableEq, Inhabited

/-- One step of a path. -/
inductive Component
  /-- The root of all files. -/
  | root
  /-- The directory where a path starts. -/
  | current
  /-- The directory above. -/
  | parent
  /-- An entry of a directory. -/
  | normal (name : String)
  deriving Repr, BEq, DecidableEq

namespace Component

/-- A step inside a path; an empty part and a dot are no steps. -/
def ofPart? (part : List Char) : Option Component :=
  match part with
  | [] => none
  | ['.'] => none
  | ['.', '.'] => some parent
  | name => some (normal (String.ofList name))

/-- The step as it is written. -/
def text : Component → String
  | root => "/"
  | current => "."
  | parent => ".."
  | normal name => name

/-- The order of steps: names come last, in the order of their characters. -/
def lt : Component → Component → Bool
  | normal a, normal b => a < b
  | a, b => rank a < rank b
where
  /-- The place of each kind of step. -/
  rank : Component → Nat
    | root => 0
    | current => 1
    | parent => 2
    | normal _ => 3

end Component

namespace Path

/-- Whether the path starts at the root. -/
def isAbsolute (path : Path) : Bool :=
  path.text.toList.head? == some '/'

/-- The steps of a path. -/
def components (path : Path) : List Component :=
  let parts := splitAt '/' path.text.toList
  let steps := parts.filterMap Component.ofPart?
  if path.isAbsolute then .root :: steps
  else if parts.head? == some ['.'] then .current :: steps
  else steps

/-- The second path seen from the first; an absolute one replaces it. -/
def join (base path : Path) : Path :=
  if path.isAbsolute then path
  else if base.text.isEmpty || base.text.toList.getLast? == some '/' then ⟨base.text ++ path.text⟩
  else ⟨base.text ++ "/" ++ path.text⟩

/-- An entry of a directory. -/
def child (base : Path) (name : String) : Path :=
  base.join ⟨name⟩

/-- The last step, if it is a name. -/
def fileName? (path : Path) : Option String :=
  match path.components.getLast? with
  | some (.normal name) => some name
  | _ => none

/-- The part of a name after its last dot, if something comes before that dot. -/
def extensionOf? (name : String) : Option String :=
  let chars := name.toList
  let after := (chars.reverse.takeWhile (· != '.')).reverse
  if after.length + 1 < chars.length then some (String.ofList after) else none

/-- The part of a name before its extension. -/
def stemOf (name : String) : String :=
  match extensionOf? name with
  | some ext => String.ofList (name.toList.take (name.toList.length - ext.toList.length - 1))
  | none => name

/-- The extension of the last step. -/
def extension? (path : Path) : Option String :=
  path.fileName?.bind extensionOf?

/-- Steps written with separators between them. -/
def ofComponents : List Component → Path
  | .root :: steps => ⟨"/" ++ "/".intercalate (steps.map (·.text))⟩
  | steps => ⟨"/".intercalate (steps.map (·.text))⟩

/-- What is left of a list after a beginning. -/
def dropBeginning? : List Component → List Component → Option (List Component)
  | [], steps => some steps
  | _ :: _, [] => none
  | a :: beginning, b :: steps => if a == b then dropBeginning? beginning steps else none

/-- The path seen from a directory that contains it. -/
def relativeTo? (base path : Path) : Option Path :=
  (dropBeginning? base.components path.components).map ofComponents

/-- The order of lists of steps: the first difference decides, and a beginning comes first. -/
def ltSteps : List Component → List Component → Bool
  | [], steps => !steps.isEmpty
  | _ :: _, [] => false
  | a :: as, b :: bs => if a == b then ltSteps as bs else a.lt b

/-- The order of paths, by their steps. -/
def lt (a b : Path) : Bool :=
  ltSteps a.components b.components

end Path

/-- Whether a name can serve as one directory name: it is one plain step, does not start with a dot,
and holds no separator of any platform. -/
def isPlainName (name : String) : Bool :=
  name.toList.head? != some '.' && !name.toList.any (fun c => c == '/' || c == '\\') &&
    (match (Path.mk name).components with
      | [.normal _] => true
      | _ => false)

end TokenAudit
