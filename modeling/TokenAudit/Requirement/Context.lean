import TokenAudit.Code.Unit
import TokenAudit.Json.Basic
import TokenAudit.Pattern.Size
import TokenAudit.Standard

/-!
# What the requirements are checked against
-/

namespace TokenAudit

/-- A target with everything that its requirements may look at. -/
structure Subject where
  /-- The function under audit, with its parameters. -/
  target : Function
  /-- The functions that it calls, directly or not. -/
  callees : List Function
  /-- The whole text that the target comes from. -/
  source : String
  /-- Which extra findings to report. -/
  profile : Profile
  deriving Repr, BEq, DecidableEq

namespace Subject

/-- The target's body, then the bodies of the callees that differ from it. -/
def units (subject : Subject) : List CodeUnit :=
  CodeUnit.main subject.target.body ::
    ((subject.callees.filter (·.body != subject.target.body)).map fun f =>
      CodeUnit.internal f.body f.name)

/-- The name of the target's parameter at a position. -/
def param? (subject : Subject) (index : Nat) : Option String :=
  subject.target.parameters.nameAt? index

/-- Whether some unit matches the pattern. -/
def inUnit (subject : Subject) (p : Pattern) : Bool :=
  subject.units.any fun unit => p.isMatch unit.code

/-- Whether some unit matches one of the patterns, which have names spliced into them. -/
def anyUnit (subject : Subject) (patterns : List Pattern) : Bool :=
  subject.units.any fun unit => Pattern.anyMatch patterns unit.code

end Subject

/-- Requirements with their verdicts, in the order in which they are reported. -/
abbrev Checklist := List (String × Bool)

/-- A checklist as an object. -/
def Checklist.toJson (list : Checklist) : Json :=
  .obj (list.map fun (name, met) => (name, .bool met))

end TokenAudit
