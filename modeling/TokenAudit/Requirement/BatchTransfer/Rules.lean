import TokenAudit.Code.Condition
import TokenAudit.Requirement.BatchTransfer.Report

/-!
# Rules on the conditions of a batch transfer

A rule knows the shape of the guard: what a `require` must state, an `if` before a `revert` must
state the opposite of. Parameter names stand for themselves in every pattern.
-/

namespace TokenAudit.BatchTransfer

open Pattern

/-- The names of the parameters, by position. -/
structure Params where
  /-- The account that tokens are taken from. -/
  sender : Option String
  /-- The account that tokens go to. -/
  recipient : Option String
  /-- The list of token ids. -/
  ids : Option String
  /-- The list of amounts. -/
  amounts : Option String
  /-- The data handed to the recipient. -/
  data : Option String
  deriving Repr, BEq, DecidableEq

/-- The parameters of a target. -/
def Params.of (subject : Subject) : Params :=
  ⟨subject.param? 0, subject.param? 1, subject.param? 2, subject.param? 3, subject.param? 4⟩

/-- How the caller is written in guards. -/
def callerForms : List String :=
  ["msg.sender", "_msgSender()", "sender"]

/-- How the zero address is written in guards. -/
def zeroForms : List String :=
  ["address(0)", "address(0x0)"]

/-- The two sides compared with `sign`, in either order. -/
def compared (sign left right : String) : List Pattern :=
  [comparing (lit left) sign (lit right), comparing (lit right) sign (lit left)]

/-- The sign by which a guard of the given shape states an equality. -/
def equalSign : GuardKind → String
  | .require => "=="
  | .ifRevert => "!="

/-- The sign by which a guard of the given shape states an inequality. -/
def unequalSign : GuardKind → String
  | .require => "!="
  | .ifRevert => "=="

/-- The guard states that the caller is the sender. -/
def senderRules (kind : GuardKind) (sender : String) : List Pattern :=
  callerForms.flatMap fun caller => compared (equalSign kind) caller sender

/-- What precedes an approval in a guard of the given shape: a negation before a `revert`. -/
def negation : GuardKind → List Pattern
  | .require => []
  | .ifRevert => [lit "!", blanks]

/-- The truth value that an approval is compared with in a guard of the given shape. -/
def approvalWord : GuardKind → String
  | .require => "true"
  | .ifRevert => "false"

/-- The guard states that the sender has approved the caller. -/
def approvalRulesFor (kind : GuardKind) (sender caller : String) : List Pattern :=
  [sequence (negation kind ++ [lit "isApprovedForAll(", blanks, lit sender, blanks, lit ",", blanks,
     lit caller, blanks, lit ")"]),
   sequence [litAnyCase "operatorApproval[", litAnyCase sender, litAnyCase "][", litAnyCase caller,
     litAnyCase "]", blanks, litAnyCase "==", blanks, litAnyCase (approvalWord kind)],
   sequence (negation kind ++ [lit "isApprovedForAll[", lit sender, lit "][", lit caller, lit "]"])]

/-- The guard states that the sender has approved some form of the caller. -/
def approvalRules (kind : GuardKind) (sender : String) : List Pattern :=
  callerForms.flatMap (approvalRulesFor kind sender)

/-- The condition mentions an approval, the sender, a form of the caller and the truth value that
belongs to the shape of the guard. -/
def mentionsApproval (kind : GuardKind) (sender : String) (content : List Char) : Bool :=
  let lowered := content.map Text.lowerChar
  callerForms.any fun caller =>
    Text.hasInfix "approval".toList lowered && Text.hasInfix sender.toList content &&
      Text.hasInfix caller.toList content && Text.hasInfix (approvalWord kind).toList lowered

/-- The guard states that the recipient is not the zero address. -/
def zeroRules (kind : GuardKind) (recipient : String) : List Pattern :=
  [recipient, "recipient"].flatMap fun form =>
    zeroForms.flatMap fun zero => compared (unequalSign kind) form zero

/-- The lengths of the two lists are compared, directly or through one of `aliases`, names bound to
the length of the first. -/
def lengthRules (ids amounts : String) (aliases : List String) : List Pattern :=
  let idsLength := lit (ids ++ ".length")
  let amountsLength := lit (amounts ++ ".length")
  [sequence [idsLength, blanks, equalitySign, blanks, amountsLength],
   sequence [amountsLength, blanks, equalitySign, blanks, idsLength]] ++
  aliases.flatMap fun name =>
    [sequence [wordEdge, lit name, blanks, equalitySign, blanks, amountsLength],
     sequence [amountsLength, blanks, equalitySign, blanks, lit name, wordEdge]]

/-- Whether a condition shows that the caller is the sender. -/
def showsSender (params : Params) (c : Condition) : Bool :=
  params.sender.any fun sender => anyMatch (senderRules c.kind sender) c.content

/-- Whether a condition shows that the sender has approved the caller. -/
def showsApproval (params : Params) (c : Condition) : Bool :=
  params.sender.any fun sender =>
    anyMatch (approvalRules c.kind sender) c.content || mentionsApproval c.kind sender c.content

/-- Whether a condition shows that the recipient is not the zero address. -/
def showsNonzero (params : Params) (c : Condition) : Bool :=
  params.recipient.any fun recipient => anyMatch (zeroRules c.kind recipient) c.content

/-- Whether a condition shows that the lists have one length. -/
def showsLength (params : Params) (aliases : List String) (c : Condition) : Bool :=
  match params.ids, params.amounts with
  | some ids, some amounts => anyMatch (lengthRules ids amounts aliases) c.content
  | _, _ => false

/-- The report after a condition has been looked at. -/
def applyCondition (params : Params) (aliases : List String) (report : BatchTransferReport)
    (c : Condition) : BatchTransferReport :=
  { report with
    sender := report.sender || showsSender params c
    approval := report.approval || showsApproval params c
    zeroAddress := report.zeroAddress || showsNonzero params c
    lengthMatching := report.lengthMatching || showsLength params aliases c }

end TokenAudit.BatchTransfer
