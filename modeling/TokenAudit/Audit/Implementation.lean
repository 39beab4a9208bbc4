import TokenAudit.Code.Assembly
import TokenAudit.Code.Call
import TokenAudit.Code.Declaration
import TokenAudit.Requirement.Report

/-!
# Audits of one source text

An auditor looks for one target. Every function with the target's signature is judged, unless its
code or that of a callee has inline assembly, or its only calls are to itself.
-/

namespace TokenAudit

/-- What one audit looks for. -/
structure Auditor where
  /-- The standard that sets the requirements. -/
  standard : Standard
  /-- The signature of the target. -/
  signature : String
  /-- Which extra findings to report. -/
  profile : Profile
  deriving Repr, BEq, DecidableEq

/-- Why an audit as a whole failed. -/
inductive AuditError
  /-- The sources are not there. -/
  | missingDirectory (path : String)
  /-- A file could not be read or written. -/
  | io (path cause : String)
  /-- The standard cannot be audited here. -/
  | unknownStandard (name : String)
  /-- The signature has no parameter list. -/
  | invalidSignature (signature : String)
  deriving Repr, BEq, DecidableEq

/-- The wording of an error. -/
def AuditError.message : AuditError → String
  | missingDirectory path => "Source directory not found: " ++ path
  | io path cause => "I/O error at " ++ path ++ ": " ++ cause
  | unknownStandard name => "No verifier registered for standard '" ++ name ++ "'"
  | invalidSignature signature =>
    "Invalid target signature '" ++ signature ++ "': expected name(type name, ...)"

/-- Why a source text has nothing to report. -/
inductive TargetError
  /-- No function has the target's signature. -/
  | notFound (function : String)
  /-- Every function with the target's signature was passed over. -/
  | nothingValid
  deriving Repr, BEq, DecidableEq

/-- The wording of an error. -/
def TargetError.message : TargetError → String
  | notFound function => function ++ " function not found"
  | nothingValid =>
    "No valid implementations found (possibly due to recursive calls or inline assembly)"

/-- The verdict on one function. -/
structure Implementation where
  /-- The name of the function. -/
  function : String
  /-- The byte offset where its declaration starts. -/
  start : Nat
  /-- The byte offset after its declaration. -/
  stop : Nat
  /-- Its parameters. -/
  parameters : ParameterList
  /-- What was found. -/
  requirements : Report
  /-- The names of the functions that it calls. -/
  internalCalls : List String
  deriving Repr, BEq, DecidableEq

namespace Implementation

/-- Every requirement is met. -/
def allMet (i : Implementation) : Bool :=
  i.requirements.allMet

/-- Some requirement is met. -/
def someMet (i : Implementation) : Bool :=
  i.requirements.someMet

/-- The verdict as an object. -/
def toJson (i : Implementation) : Json :=
  .obj [("function", .str i.function),
    ("implementation_location", .obj [("start", .ofNat i.start), ("end", .ofNat i.stop)]),
    ("parameters", .obj (i.parameters.entries.map fun (name, type) => (name, .str type))),
    ("requirements", i.requirements.toJson),
    ("internal_calls", .arr (i.internalCalls.map .str)),
    ("all_requirements_met", .bool i.allMet), ("some_requirements_met", .bool i.someMet)]

end Implementation

/-- Whether a function's code has inline assembly. -/
def Function.hasAssembly (f : Function) : Bool :=
  Assembly.occursIn f.body.toList

namespace Auditor

/-- An auditor, if its signature has a parameter list. -/
def new (standard : Standard) (signature : String) (profile : Profile) :
    Except AuditError Auditor :=
  if Signature.hasParams signature then .ok ⟨standard, signature, profile⟩
  else .error (.invalidSignature signature)

/-- An auditor for one of the standards in `registered`. -/
def ofRegistry (registered : List Standard) (standard : Standard) (signature : String)
    (profile : Profile) : Except AuditError Auditor :=
  if registered.contains standard then new standard signature profile
  else .error (.unknownStandard standard.name)

/-- The name of the function under audit. -/
def functionName (auditor : Auditor) : String :=
  Signature.functionName auditor.signature

/-- The functions that a target's verdict takes in: its callees, or `none` if the target has to be
passed over. -/
def admit? (functions : List Function) (target : Function) : Option (List Function) :=
  if target.hasAssembly then none
  else
    match resolveCalls target.body functions with
    | .selfRecursive => none
    | closure => if closure.reached.any (·.hasAssembly) then none else some closure.reached

/-- The verdict on a target with the given callees. -/
def judge (auditor : Auditor) (source : String) (target : Function) (callees : List Function) :
    Except OffsetFault Implementation := do
  let found ← auditor.standard.verify ⟨target, callees, source, auditor.profile⟩
  return {
    function := target.name
    start := target.start
    stop := target.stop
    parameters := target.parameters
    requirements := auditor.standard.applyCallees auditor.profile found callees
    internalCalls := callees.map (·.name) }

/-- The verdicts on the targets, passing over those that are not admitted. -/
def judgeAll (auditor : Auditor) (source : String) (functions : List Function) :
    List Function → Except OffsetFault (List Implementation)
  | [] => .ok []
  | target :: rest =>
    match admit? functions target with
    | none => judgeAll auditor source functions rest
    | some callees => do
      let first ← judge auditor source target callees
      let later ← judgeAll auditor source functions rest
      return first :: later

/-- The verdict on every function of a source text that has the target's signature. -/
def analyze (auditor : Auditor) (source : String) :
    Except OffsetFault (Except TargetError (List Implementation)) := do
  let functions := declarations source
  match matchSignature functions auditor.signature with
  | [] => return .error (.notFound auditor.functionName)
  | targets =>
    match ← judgeAll auditor source functions targets with
    | [] => return .error .nothingValid
    | implementations => return .ok implementations

end Auditor

end TokenAudit
