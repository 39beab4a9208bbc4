import TokenAudit.Requirement.Context

/-!
# Requirements on the batch operations of ERC-3643

These rules look for the identifiers that the standard itself uses (`_to`, `_amount`,
`_userAddress`, …) and do not depend on the names of the target's parameters.
-/

namespace TokenAudit

open Pattern

/-- What was found about a batch transfer. -/
structure Erc3643TransferReport where
  /-- The sender is not the zero address. -/
  zeroFrom : Bool
  /-- The recipient is not the zero address. -/
  zeroTo : Bool
  /-- Frozen wallets are refused. -/
  frozenWallet : Bool
  /-- The sender's balance suffices. -/
  balance : Bool
  /-- The recipient's identity is verified. -/
  identityRegistry : Bool
  /-- The transfer complies with the rules of the token. -/
  compliance : Bool
  /-- The transfer is announced. -/
  eventEmission : Bool
  deriving Repr, BEq, DecidableEq

/-- What was found about a forced batch transfer. -/
structure Erc3643ForcedTransferReport where
  /-- The lists have one length. -/
  lengthMatching : Bool
  /-- The sender is not the zero address. -/
  zeroFrom : Bool
  /-- The recipient is not the zero address. -/
  zeroTo : Bool
  /-- Frozen tokens are released as needed. -/
  frozenUnfreeze : Bool
  /-- Enough frozen tokens are there to release. -/
  frozenBalance : Bool
  /-- The recipient's identity is verified. -/
  identityRegistry : Bool
  /-- The rules of the token are told of the transfer. -/
  compliance : Bool
  /-- The release is announced. -/
  unfreezeEvent : Bool
  /-- The transfer is announced. -/
  transferEvent : Bool
  deriving Repr, BEq, DecidableEq

/-- What was found about a batch burn. -/
structure Erc3643BurnReport where
  /-- The lists have one length. -/
  lengthMatching : Bool
  /-- The holder is not the zero address. -/
  zeroAddress : Bool
  /-- The holder's balance suffices. -/
  balance : Bool
  /-- Frozen tokens are released as needed. -/
  frozenUnfreeze : Bool
  /-- Enough frozen tokens are there to release. -/
  frozenBalance : Bool
  /-- The release is announced. -/
  unfreezeEvent : Bool
  /-- The burn is announced. -/
  burnEvent : Bool
  /-- The rules of the token are told of the burn. -/
  complianceDestroyed : Bool
  deriving Repr, BEq, DecidableEq

/-- What was found about a batch mint. -/
structure Erc3643MintReport where
  /-- The lists have one length. -/
  lengthMatching : Bool
  /-- The recipient is not the zero address. -/
  zeroAddress : Bool
  /-- The recipient's identity is verified. -/
  identityRegistry : Bool
  /-- The mint complies with the rules of the token. -/
  compliance : Bool
  /-- The mint is announced. -/
  mintEvent : Bool
  /-- The rules of the token are told of the mint. -/
  complianceCreated : Bool
  deriving Repr, BEq, DecidableEq

namespace Erc3643

/-- An argument between blanks. -/
def padded (p : Pattern) : Pattern :=
  sequence [blanks, p, blanks]

/-- A call of `function` with the given arguments, blanks allowed around each. -/
def callWith (function : String) (arguments : List Pattern) : Pattern :=
  sequence ([lit function, lit "("] ++ (arguments.map padded).intersperse (lit ",") ++ [lit ")"])

/-- The entry of the mapping `name` under `key`, blanks allowed around the key. -/
def entryOf (name : String) (key : Pattern) : Pattern :=
  sequence [lit name, lit "[", padded key, lit "]"]

/-- The zero address, in either notation. -/
def zero : Pattern :=
  anyOf [lit "address(0)", lit "0x0"]

/-- A name that may start with an underscore. -/
def underscored (name : String) : Pattern :=
  sequence [opt (lit "_"), lit name]

/-- A name that may start with an underscore and may end in `List`. -/
def listed (name : String) : Pattern :=
  sequence [opt (lit "_"), lit name, opt (lit "List")]

/-- The announcement of a transfer. -/
def transferEvent : Pattern :=
  sequence [lit "emit", blanks1, lit "Transfer("]

/-- The announcement of a release of frozen tokens. -/
def unfrozenEvent : Pattern :=
  sequence [lit "emit", blanks1, lit "TokensUnfrozen("]

/-- The branch taken when the free balance does not suffice. -/
def freeBalanceBranch : Pattern :=
  sequence [lit "if", blanks, lit "(", padded (comparing (lit "_amount") ">" (lit "freeBalance")),
    lit ")"]

/-- The transfer's sender compared with zero. -/
def transferZeroFrom : Pattern :=
  comparing (anyOf [lit "msg.sender", lit "from"]) "!=" zero

/-- The transfer's recipient compared with zero. -/
def transferZeroTo : Pattern :=
  comparing (sequence [lit "to", opt (lit "[i]")]) "!=" zero

/-- A wallet that must not be frozen. -/
def notFrozen : Pattern :=
  sequence [lit "!", blanks, opt (lit "_"),
    entryOf "frozen" (anyOf [lit "msg.sender", lit "_from", lit "_to"])]

/-- The sender's balance compared with the amount. -/
def transferBalance : Pattern :=
  comparing (entryOf "_balances" (lit "msg.sender")) ">=" (underscored "amount")

/-- The identity check of a transfer. -/
def transferIdentity : Pattern :=
  callWith "tokenIdentityRegistry.isVerified" [underscored "to"]

/-- The compliance check of a transfer. -/
def transferCompliance : Pattern :=
  callWith "tokenCompliance.canTransfer" [lit "msg.sender", underscored "to", underscored "amount"]

/-- The identity check of the other operations. -/
def identity : Pattern :=
  callWith "tokenIdentityRegistry.isVerified" [lit "_to"]

/-- The lists of a forced transfer have one length. -/
def forcedLength : Pattern :=
  comparing (sequence [listed "from", lit ".length"]) "==" (sequence [listed "to", lit ".length"])

/-- A member of the list `name` compared with zero. -/
def forcedZero (name : String) : Pattern :=
  comparing (sequence [listed name, lit "[i]"]) "!=" zero

/-- Frozen tokens of the sender are reduced by what is released. -/
def forcedUnfreeze : Pattern :=
  let frozen := entryOf "frozenTokens" (lit "_from")
  comparing (comparing frozen "=" frozen) "-" (lit "tokensToUnfreeze")

/-- Enough frozen tokens of `holder` are there to release. -/
def frozenSuffices (holder : String) : Pattern :=
  comparing (entryOf "frozenTokens" (lit holder)) ">=" (lit "tokensToUnfreeze")

/-- The rules of the token are told of a forced transfer. -/
def forcedCompliance : Pattern :=
  callWith "tokenCompliance.transferred" [lit "_from", lit "_to", lit "_amount"]

/-- Two lists have one length. -/
def sameLength (left right : String) : Pattern :=
  comparing (lit (left ++ ".length")) "==" (lit (right ++ ".length"))

/-- A user's address compared with zero. -/
def userNotZero : Pattern :=
  comparing (lit "_userAddress") "!=" (lit "address(0)")

/-- A user's balance compared with the amount. -/
def userBalance : Pattern :=
  comparing (entryOf "_balances" (lit "_userAddress")) ">=" (lit "_amount")

/-- The announcement of a burn. -/
def burnEvent : Pattern :=
  sequence [transferEvent, padded (lit "_userAddress"), lit ",", padded (lit "address(0)"), lit ","]

/-- The announcement of a mint. -/
def mintEvent : Pattern :=
  sequence [transferEvent, padded (lit "address(0)"), lit ",", padded (lit "_userAddress"), lit ","]

/-- The rules of the token are told of a burn. -/
def destroyed : Pattern :=
  callWith "tokenCompliance.destroyed" [lit "_userAddress", lit "_amount"]

/-- The compliance check of a mint. -/
def mintCompliance : Pattern :=
  callWith "tokenCompliance.canTransfer" [lit "msg.sender", lit "_to", lit "_amount"]

/-- The rules of the token are told of a mint. -/
def created : Pattern :=
  callWith "tokenCompliance.created" [lit "_to", lit "_amount"]

/-- Checks the requirements on a batch transfer. -/
def verifyTransfer (subject : Subject) : Erc3643TransferReport where
  zeroFrom := subject.inUnit transferZeroFrom
  zeroTo := subject.inUnit transferZeroTo
  frozenWallet := subject.inUnit notFrozen
  balance := subject.inUnit transferBalance
  identityRegistry := subject.inUnit transferIdentity
  compliance := subject.inUnit transferCompliance
  eventEmission := subject.inUnit transferEvent

/-- Checks the requirements on a forced batch transfer. The branch on the free balance and the
release must stand in one unit. -/
def verifyForcedTransfer (subject : Subject) : Erc3643ForcedTransferReport where
  lengthMatching := subject.inUnit forcedLength
  zeroFrom := subject.inUnit (forcedZero "from")
  zeroTo := subject.inUnit (forcedZero "to")
  frozenUnfreeze := subject.units.any fun unit =>
    freeBalanceBranch.isMatch unit.code && forcedUnfreeze.isMatch unit.code
  frozenBalance := subject.inUnit (frozenSuffices "_from")
  identityRegistry := subject.inUnit identity
  compliance := subject.inUnit forcedCompliance
  unfreezeEvent := subject.inUnit unfrozenEvent
  transferEvent := subject.inUnit transferEvent

/-- Checks the requirements on a batch burn. -/
def verifyBurn (subject : Subject) : Erc3643BurnReport where
  lengthMatching := subject.inUnit (sameLength "_userAddresses" "_amounts")
  zeroAddress := subject.inUnit userNotZero
  balance := subject.inUnit userBalance
  frozenUnfreeze := subject.inUnit freeBalanceBranch
  frozenBalance := subject.inUnit (frozenSuffices "_userAddress")
  unfreezeEvent := subject.inUnit unfrozenEvent
  burnEvent := subject.inUnit burnEvent
  complianceDestroyed := subject.inUnit destroyed

/-- Checks the requirements on a batch mint. -/
def verifyMint (subject : Subject) : Erc3643MintReport where
  lengthMatching := subject.inUnit (sameLength "_toList" "_amounts")
  zeroAddress := subject.inUnit userNotZero
  identityRegistry := subject.inUnit identity
  compliance := subject.inUnit mintCompliance
  mintEvent := subject.inUnit mintEvent
  complianceCreated := subject.inUnit created

end Erc3643

/-- The verdicts on a batch transfer. -/
def Erc3643TransferReport.checklist (r : Erc3643TransferReport) : Checklist :=
  [("erc3643_zero_address_check_from", r.zeroFrom), ("erc3643_zero_address_check_to", r.zeroTo),
   ("erc3643_frozen_wallet_check", r.frozenWallet), ("erc3643_balance_check", r.balance),
   ("erc3643_identity_registry_check", r.identityRegistry),
   ("erc3643_compliance_check", r.compliance), ("erc3643_event_emission_check", r.eventEmission)]

/-- The verdicts on a forced batch transfer. -/
def Erc3643ForcedTransferReport.checklist (r : Erc3643ForcedTransferReport) : Checklist :=
  [("length_matching_check", r.lengthMatching), ("zero_address_check_from", r.zeroFrom),
   ("zero_address_check_to", r.zeroTo), ("frozen_tokens_unfreeze_check", r.frozenUnfreeze),
   ("frozen_tokens_balance_check", r.frozenBalance),
   ("identity_registry_check", r.identityRegistry), ("compliance_check", r.compliance),
   ("unfreeze_event_check", r.unfreezeEvent), ("transfer_event_check", r.transferEvent)]

/-- The verdicts on a batch burn. -/
def Erc3643BurnReport.checklist (r : Erc3643BurnReport) : Checklist :=
  [("length_matching_check", r.lengthMatching), ("zero_address_check", r.zeroAddress),
   ("balance_check", r.balance), ("frozen_unfreeze_check", r.frozenUnfreeze),
   ("frozen_balance_check", r.frozenBalance), ("unfreeze_event_check", r.unfreezeEvent),
   ("burn_event_check", r.burnEvent), ("compliance_destroyed_check", r.complianceDestroyed)]

/-- The verdicts on a batch mint. -/
def Erc3643MintReport.checklist (r : Erc3643MintReport) : Checklist :=
  [("length_matching_check", r.lengthMatching), ("zero_address_check", r.zeroAddress),
   ("identity_registry_check", r.identityRegistry), ("compliance_check", r.compliance),
   ("mint_event_check", r.mintEvent), ("compliance_created_check", r.complianceCreated)]

end TokenAudit
