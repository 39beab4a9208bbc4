import TokenAudit.Files.FileSystem
import TokenAudit.Spec

/-!
# Sessions

A session is a computation that works on a file system and may stop early. What it has changed before
it stops stays changed.
-/

namespace TokenAudit

/-- Who words the end of a cause. -/
inductive Detail
  /-- Nobody: the cause is complete. -/
  | complete
  /-- The database. -/
  | database
  /-- The reader of documents. -/
  | document
  deriving Repr, BEq, DecidableEq

/-- A cause of a failure. -/
structure Cause where
  /-- The wording. -/
  text : String
  /-- Who words its end. -/
  detail : Detail := .complete
  deriving Repr, BEq, DecidableEq

/-- Why a session stops early. -/
inductive Stop
  /-- Something failed; the causes go from the outermost to the innermost. -/
  | failed (causes : List Cause)
  /-- An audit was broken off. -/
  | broken (fault : OffsetFault)
  deriving Repr, BEq, DecidableEq

/-- Computations on a file system that may stop early. -/
abbrev Session := ExceptT Stop (StateM FileSystem)

namespace Session

/-- Stops with one cause. -/
def fail {α : Type} (text : String) : Session α :=
  throw (.failed [⟨text, .complete⟩])

/-- Asks something about the file system. -/
def ask {α : Type} (question : FileSystem → α) : Session α := do
  return question (← get)

/-- The result of a file operation; an error is a cause below `text`. -/
def check {α : Type} (text : String) : Except FileError α → Session α
  | .ok a => pure a
  | .error error => throw (.failed [⟨text, .complete⟩, ⟨error.message, .complete⟩])

/-- Reads from the file system; an error is a cause below `text`. -/
def read {α : Type} (text : String) (action : FileSystem → Except FileError α) : Session α := do
  check text (action (← get))

/-- Changes the file system; an error is a cause below `text`. -/
def change (text : String) (action : FileSystem → Except FileError FileSystem) : Session Unit := do
  set (← check text (action (← get)))

/-- Creates a directory and all that are missing above it; an error is a cause below `text`. -/
def createDirAll (text : String) (path : Path) : Session Unit := do
  let (result, fs) := (← get).createDirAll path
  set fs
  check text result

end Session

/-- A cause that is an error of the run store. -/
def StoreError.cause (error : StoreError) : Cause :=
  { text := error.message
    detail := match error with
      | .database => .database
      | .unsupportedVersion _ => .complete
      | .badOutcome => .document }

/-- The result of the run store; an error is a cause below `text`. -/
def Session.checkStore {α : Type} (text : String) : Except StoreError α → Session α
  | .ok a => pure a
  | .error error => throw (.failed [⟨text, .complete⟩, error.cause])

/-- The causes that an error in a spec is made of. -/
def SpecError.causes : SpecError → List Cause
  | malformed format => [⟨malformedMessage format, .document⟩]
  | read path cause => [⟨(read path cause).message, .complete⟩, ⟨cause, .complete⟩]
  | error => [⟨error.message, .complete⟩]

end TokenAudit
