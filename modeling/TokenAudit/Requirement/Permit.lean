import TokenAudit.Code.Condition
import TokenAudit.Requirement.Context

/-!
# Requirements on a permit

A permit must not outlive its deadline, must be signed by the owner, and must use up a nonce. A
`require` states that the permit is live, an `if` before a `revert` that it has expired.
-/

namespace TokenAudit

open Pattern

/-- What was found about a permit function. -/
structure PermitReport where
  /-- Some guard compares the deadline with the time. -/
  deadline : Bool
  /-- Some guard mentions the time. -/
  timestamp : Bool
  /-- A signature is checked. -/
  signature : Bool
  /-- A nonce is used. -/
  nonce : Bool
  /-- The domain separator is used. -/
  domainSeparator : Bool
  /-- A function of the mandated name is declared. -/
  functionExists : Bool
  /-- The owner is checked. -/
  owner : Bool
  /-- The spender is approved. -/
  spender : Bool
  deriving Repr, BEq, DecidableEq

namespace Permit

/-- The time of the current block. -/
def now : Pattern :=
  lit "block.timestamp"

/-- A call of `function` with one argument. -/
def callOf (function argument : String) : Pattern :=
  sequence [lit function, lit "(", blanks, lit argument, blanks, lit ")"]

/-- Conditions that say the deadline has passed. -/
def expired (deadline : String) : List Pattern :=
  [comparing (lit deadline) "<" now, comparing now ">" (lit deadline),
   callOf "isExpired" deadline, callOf "!isValid" deadline]

/-- Conditions that say the deadline has not passed. -/
def live (deadline : String) : List Pattern :=
  [comparing (lit deadline) ">=" now, comparing now "<=" (lit deadline),
   callOf "!isExpired" deadline, callOf "isValid" deadline]

/-- The conditions on the deadline that a guard of the given shape must state. -/
def deadlineRules (deadline : String) : GuardKind → List Pattern
  | .ifRevert => expired deadline
  | .require => live deadline

/-- Mentions of the time. -/
def timestampRule : Pattern :=
  anyOf [now, sequence [lit "now", blanks, one (.oneOf ['<', '>', '='])],
    sequence [lit "timestamp", blanks, one (.oneOf ['<', '>', '='])]]

/-- Checks of a signature inside a condition. -/
def recoveryRule : Pattern :=
  anyOf [sequence [lit "ecrecover", blanks, lit "("], sequence [lit "ECDSA.recover", blanks, lit "("],
    sequence [lit "signature", blanks, lit "=", blanks, lit "abi.encodePacked", blanks, lit "("],
    sequence [lit ".verify", blanks, lit "("]]

/-- Uses of a nonce inside a condition. -/
def nonceRule : Pattern :=
  anyOf [lit "nonces[", sequence [lit "incrementNonce", blanks, lit "("]]

/-- The account that signed, as it is usually named. -/
def signer : Pattern :=
  anyOf [lit "signer", sequence [lit "recovered", many .word]]

/-- Checks of the owner. -/
def ownerRules (owner : String) : List Pattern :=
  [comparing (lit owner) "==" (lit "msg.sender"), comparing (lit "msg.sender") "==" (lit owner),
   callOf "isOwner" owner, callOf "ownerOf" owner,
   sequence [wordEdge, signer, blanks, equalitySign, blanks, lit owner, wordEdge],
   sequence [wordEdge, lit owner, blanks, equalitySign, blanks, signer, wordEdge]]

/-- Approvals of the spender. -/
def spenderRules (owner spender : String) : List Pattern :=
  [sequence [lit "approve(", blanks, opt (sequence [lit owner, blanks, lit ",", blanks]),
     lit spender, blanks, lit ","],
   sequence [lit "allowance[", many1 (.noneOf [']']), lit "][", blanks, lit spender, blanks,
     lit "]", blanks, lit "="]]

/-- Uses of the domain separator. -/
def domainSeparatorRule : Pattern :=
  anyOf [lit "DOMAIN_SEPARATOR", sequence [lit "domainSeparator", blanks, lit "("],
    sequence [lit "_domainSeparatorV4", blanks, lit "("]]

/-- The declaration of the mandated function. -/
def functionRule : Pattern :=
  sequence [lit "function", blanks1, lit "permit", blanks, lit "("]

/-- Checks of a signature anywhere in the code. -/
def recoveryCallRule : Pattern :=
  sequence [anyOf [lit "ecrecover", lit ".recover", lit ".verify"], blanks, lit "("]

/-- Uses of a nonce anywhere in the code. -/
def nonceCallRule : Pattern :=
  anyOf [lit "nonces[", sequence [lit "incrementNonce", blanks, lit "("],
    sequence [lit "_useNonce", blanks, lit "("]]

/-- Checks the requirements. -/
def verify (subject : Subject) : PermitReport :=
  let owner := (subject.param? 0).getD "owner"
  let spender := (subject.param? 1).getD "spender"
  let deadline := (subject.param? 3).getD "deadline"
  let conditions := Condition.harvest subject.units
  let inCondition (p : Pattern) := conditions.any fun c => p.isMatch c.content
  { deadline := conditions.any fun c => anyMatch (deadlineRules deadline c.kind) c.content
    timestamp := inCondition timestampRule
    signature := inCondition recoveryRule || subject.inUnit recoveryCallRule
    nonce := inCondition nonceRule || subject.inUnit nonceCallRule
    domainSeparator := subject.inUnit domainSeparatorRule
    functionExists := subject.inUnit functionRule
    owner := subject.anyUnit (ownerRules owner)
    spender := subject.anyUnit (spenderRules owner spender) }

end Permit

/-- The verdicts on a permit function. -/
def PermitReport.checklist (r : PermitReport) : Checklist :=
  [("deadline_check", r.deadline), ("timestamp_check", r.timestamp),
   ("signature_validation", r.signature), ("nonce_usage", r.nonce),
   ("domain_separator_usage", r.domainSeparator), ("permit_function_exists", r.functionExists),
   ("owner_check", r.owner), ("spender_approval", r.spender)]

end TokenAudit
