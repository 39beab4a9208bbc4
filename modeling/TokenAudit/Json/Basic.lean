/-!
# JSON documents

Objects keep the order of their fields.
-/

namespace TokenAudit

/-- A JSON value. -/
inductive Json
  /-- The null value. -/
  | null
  /-- A truth value. -/
  | bool (value : Bool)
  /-- A whole number. -/
  | int (value : Int)
  /-- A floating point number, as it is written. -/
  | decimal (literal : String)
  /-- A string. -/
  | str (value : String)
  /-- An array. -/
  | arr (items : List Json)
  /-- An object. -/
  | obj (fields : List (String × Json))
  deriving Repr, BEq, Inhabited

namespace Json

/-- A string, or null. -/
def ofText? : Option String → Json
  | some s => str s
  | none => null

/-- A whole number. -/
def ofNat (n : Nat) : Json :=
  int n

/-- The value of the first field with this name. -/
def field? (name : String) : Json → Option Json
  | obj fields => fields.lookup name
  | _ => none

end Json

end TokenAudit
