/-!
# Functions and their parameters
-/

namespace TokenAudit

/-- Parameter names with their types, in the order in which the names were first declared. -/
structure ParameterList where
  /-- Names and types. -/
  entries : List (String × String)
  deriving Repr, BEq, DecidableEq, ReflBEq, LawfulBEq, Inhabited

namespace ParameterList

/-- No parameters. -/
def empty : ParameterList :=
  ⟨[]⟩

/-- The entries with the type of `name` replaced, or with a new entry at the end. -/
def insertEntry (name type : String) : List (String × String) → List (String × String)
  | [] => [(name, type)]
  | entry :: rest =>
    if entry.1 == name then (name, type) :: rest else entry :: insertEntry name type rest

/-- Declares a parameter. Declaring a name again replaces its type in place. -/
def insert (list : ParameterList) (name type : String) : ParameterList :=
  ⟨insertEntry name type list.entries⟩

/-- The parameters declared one after the other. -/
def ofList (declared : List (String × String)) : ParameterList :=
  declared.foldl (fun list (name, type) => list.insert name type) empty

/-- The name at a position. -/
def nameAt? (list : ParameterList) (index : Nat) : Option String :=
  list.entries[index]?.map (·.1)

/-- The type of a name. -/
def typeOf? (list : ParameterList) (name : String) : Option String :=
  (list.entries.find? (·.1 == name)).map (·.2)

/-- The number of parameters. -/
def size (list : ParameterList) : Nat :=
  list.entries.length

end ParameterList

/-- A declared function. -/
structure Function where
  /-- The name; overloads share one. -/
  name : String
  /-- The text between the parentheses of the parameter list, trimmed. -/
  params : String
  /-- The text between the parameter list and the body, trimmed. -/
  modifiers : String
  /-- The byte offset of the keyword that starts the declaration. -/
  start : Nat
  /-- The byte offset after the last character of the declaration. -/
  stop : Nat
  /-- The text of the whole declaration. -/
  body : String
  /-- Whether the declaration has a body of its own. -/
  isImplementation : Bool
  /-- The parameters, known once the function is the target of an audit. -/
  parameters : ParameterList
  deriving Repr, BEq, DecidableEq, ReflBEq, LawfulBEq, Inhabited

/-- The name with the parameter list as it is declared. -/
def Function.declaredSignature (f : Function) : String :=
  f.name ++ "(" ++ f.params ++ ")"

end TokenAudit
