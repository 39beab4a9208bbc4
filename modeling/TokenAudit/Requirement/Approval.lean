import TokenAudit.Code.Condition
import TokenAudit.Requirement.Context

/-!
# Requirements on approving an operator

An account must not approve itself, the approval must be announced by an event, and a guard must
stand before the event.
-/

namespace TokenAudit

open Pattern

/-- What was found about an approval function. -/
structure ApprovalReport where
  /-- Some guard compares the approving account with the operator. -/
  selfApproval : Bool
  /-- Some guard stands before the event. -/
  statusChange : Bool
  /-- The event is emitted. -/
  eventEmission : Bool
  deriving Repr, BEq, DecidableEq

namespace Approval

/-- How the approving account is written in guards. -/
def ownerForms : List String :=
  ["msg.sender", "_msgSender()", "sender", "owner", "owner_", "_account", "account"]

/-- The name of the operator: the first parameter if there are at least two. -/
def operatorName (subject : Subject) : String :=
  if subject.target.parameters.size > 1 then (subject.param? 0).getD "operator" else "operator"

/-- Comparisons of the form `owner` of the approving account with the operator. -/
def selfComparisons (operator owner : String) : List Pattern :=
  let call := sequence [lit owner, blanks, lit "(", blanks, lit ")"]
  [comparing (lit owner) "==" (lit operator), comparing (lit operator) "==" (lit owner),
   comparing (lit owner) "!=" (lit operator), comparing (lit operator) "!=" (lit owner),
   comparing call "!=" (lit operator), comparing (lit operator) "!=" call]

/-- The event that announces an approval. -/
def event : Pattern :=
  sequence [lit "emit", blanks1, lit "ApprovalForAll", blanks, lit "("]

/-- The start of a guard. -/
def guardStart : Pattern :=
  anyOf [sequence [lit "require", blanks, lit "("], sequence [lit "if", blanks, lit "("],
    sequence [lit "revert", blanks, lit "("]]

/-- Whether a guard starts before the first event of a unit. -/
def guardedEvent (unit : CodeUnit) : Bool :=
  (event.find? unit.code).any fun found =>
    guardStart.isMatch (Text.takeBytes found.start unit.code)

/-- Checks the requirements. -/
def verify (subject : Subject) : ApprovalReport :=
  let units := subject.units
  let comparisons := ownerForms.flatMap (selfComparisons (operatorName subject))
  { selfApproval := (Condition.harvest units).any fun c => anyMatch comparisons c.content
    statusChange := units.any guardedEvent
    eventEmission := units.any fun unit => event.isMatch unit.code }

end Approval

/-- The verdicts on an approval function. -/
def ApprovalReport.checklist (r : ApprovalReport) : Checklist :=
  [("self_approval_check", r.selfApproval), ("status_change_check", r.statusChange),
   ("event_emission", r.eventEmission)]

end TokenAudit
