import TokenAudit.Code.Function

/-!
# Units of code

An audit looks at the body of its target and at the bodies of the functions that the target calls.
Each of them is a unit with a label.
-/

namespace TokenAudit

/-- Where a unit of code comes from. -/
inductive Label
  /-- The target itself. -/
  | main
  /-- A function that the target calls, by name. -/
  | internal (name : String)
  deriving Repr, BEq, DecidableEq, ReflBEq, LawfulBEq

/-- The label as it is shown. -/
def Label.text : Label → String
  | main => "main function"
  | internal name => "internal function " ++ name

/-- A labelled piece of code. -/
structure CodeUnit where
  /-- The code. -/
  code : List Char
  /-- Where it comes from. -/
  label : Label
  deriving Repr, BEq, DecidableEq

/-- The unit of a target's body. -/
def CodeUnit.main (body : String) : CodeUnit :=
  ⟨body.toList, .main⟩

/-- The unit of a called function. -/
def CodeUnit.internal (body name : String) : CodeUnit :=
  ⟨body.toList, .internal name⟩

end TokenAudit
