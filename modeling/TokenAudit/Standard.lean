import TokenAudit.Code.Signature
import TokenAudit.Text.Words

/-!
# Token standards and audit profiles

The entry points that can be audited, each with its mandated function and a canonical signature.
-/

namespace TokenAudit

open Text

/-- An entry point of a token standard. -/
inductive Standard
  /-- ERC-1155 batch transfer. -/
  | erc1155BatchTransfer
  /-- ERC-3643 batch transfer. -/
  | erc3643BatchTransfer
  /-- ERC-3643 forced batch transfer. -/
  | erc3643BatchForcedTransfer
  /-- ERC-3643 batch mint. -/
  | erc3643BatchMint
  /-- ERC-3643 batch burn. -/
  | erc3643BatchBurn
  /-- Approval of an operator for all tokens. -/
  | setApprovalForAll
  /-- ERC-2612 permit. -/
  | erc2612Permit
  /-- ERC-5267 domain description. -/
  | erc5267Domain
  deriving Repr, BEq, DecidableEq, Inhabited

/-- Which extra findings an audit reports. -/
inductive Profile
  /-- The checklist alone. -/
  | standard
  /-- Also whether a batch transfer calls the single transfer. -/
  | gasFamily
  deriving Repr, BEq, DecidableEq, Inhabited

/-- Why no standard or profile could be settled on. -/
inductive StandardError
  /-- No standard has this name. -/
  | unknown (name : String)
  /-- The signature's function belongs to no standard. -/
  | cannotInfer (signature : String)
  /-- The signature has no parameter list. -/
  | invalidSignature (signature : String)
  /-- Neither a standard nor a signature was given. -/
  | missingTarget
  /-- No profile has this name. -/
  | unknownProfile (name : String)
  deriving Repr, BEq, DecidableEq

namespace Standard

/-- Every standard, in the order in which they are listed. -/
def all : List Standard :=
  [erc1155BatchTransfer, erc3643BatchTransfer, erc3643BatchForcedTransfer, erc3643BatchMint,
   erc3643BatchBurn, setApprovalForAll, erc2612Permit, erc5267Domain]

/-- The name by which a standard is chosen. -/
def name : Standard → String
  | erc1155BatchTransfer => "erc1155-batch-transfer"
  | erc3643BatchTransfer => "erc3643-batch-transfer"
  | erc3643BatchForcedTransfer => "erc3643-batch-forced-transfer"
  | erc3643BatchMint => "erc3643-batch-mint"
  | erc3643BatchBurn => "erc3643-batch-burn"
  | setApprovalForAll => "set-approval-for-all"
  | erc2612Permit => "erc2612-permit"
  | erc5267Domain => "erc5267-domain"

/-- The function that the standard mandates. -/
def functionName : Standard → String
  | erc1155BatchTransfer => "safeBatchTransferFrom"
  | erc3643BatchTransfer => "batchTransfer"
  | erc3643BatchForcedTransfer => "batchForcedTransfer"
  | erc3643BatchMint => "batchMint"
  | erc3643BatchBurn => "batchBurn"
  | setApprovalForAll => "setApprovalForAll"
  | erc2612Permit => "permit"
  | erc5267Domain => "eip712Domain"

/-- The signature that is audited when none is given. -/
def defaultSignature : Standard → String
  | erc1155BatchTransfer =>
    "safeBatchTransferFrom(address from, address to, uint256[] memory ids, uint256[] memory amounts, bytes memory data)"
  | erc3643BatchTransfer =>
    "batchTransfer(address[] calldata _toList, uint256[] calldata _amounts)"
  | erc3643BatchForcedTransfer =>
    "batchForcedTransfer(address[] calldata _fromList, address[] calldata _toList, uint256[] calldata _amounts)"
  | erc3643BatchMint =>
    "batchMint(address[] calldata _toList, uint256[] calldata _amounts)"
  | erc3643BatchBurn =>
    "batchBurn(address[] calldata _userAddresses, uint256[] calldata _amounts)"
  | setApprovalForAll => "setApprovalForAll(address operator, bool approved)"
  | erc2612Permit =>
    "permit(address owner, address spender, uint256 value, uint256 deadline, uint8 v, bytes32 r, bytes32 s)"
  | erc5267Domain => "eip712Domain()"

/-- The standard of the given name; case and outer blanks do not matter. -/
def parse (text : String) : Except StandardError Standard :=
  let wanted := lower (trim text)
  match all.find? (·.name == wanted) with
  | some standard => .ok standard
  | none => .error (.unknown text)

/-- The standard whose function the signature names. -/
def infer? (signature : String) : Option Standard :=
  all.find? (·.functionName == Signature.functionName signature)

end Standard

/-- The wording of an error. -/
def StandardError.message : StandardError → String
  | unknown name =>
    "Unknown standard '" ++ name ++ "' (expected one of: " ++
      ", ".intercalate (Standard.all.map (·.name)) ++ ")"
  | cannotInfer signature =>
    "Cannot infer a standard from signature '" ++ signature ++ "'; pass a standard explicitly"
  | invalidSignature signature =>
    "Invalid target signature '" ++ signature ++ "': expected name(type name, ...)"
  | missingTarget => "Either a standard or a target signature is required"
  | unknownProfile name =>
    "Unknown profile '" ++ name ++ "' (expected standard or gas-family)"

/-- What an audit looks for: a function and the requirements it must meet. -/
structure Target where
  /-- The standard that sets the requirements. -/
  standard : Standard
  /-- The signature of the function. -/
  signature : String
  deriving Repr, BEq, DecidableEq

/-- Settles on a target. A given signature wins over the standard's own, and a given standard over
the one that the signature suggests. A blank signature counts as not given. -/
def Target.resolve (standard signature : Option String) : Except StandardError Target := do
  let signature := (signature.map trim).filter (· != "")
  if let some given := signature then
    if !Signature.hasParams given then throw (.invalidSignature given)
  let chosen ← match standard, signature with
    | some name, _ => Standard.parse name
    | none, none => throw .missingTarget
    | none, some given =>
      match Standard.infer? given with
      | some inferred => pure inferred
      | none => throw (.cannotInfer given)
  return ⟨chosen, signature.getD chosen.defaultSignature⟩

namespace Profile

/-- The name by which a profile is chosen. -/
def name : Profile → String
  | standard => "standard"
  | gasFamily => "gas-family"

/-- The profile of the given name or short name; case and outer blanks do not matter. -/
def parse (text : String) : Except StandardError Profile :=
  let wanted := lower (trim text)
  if wanted == "standard" then .ok standard
  else if wanted == "gas-family" || wanted == "gas" then .ok gasFamily
  else .error (.unknownProfile wanted)

end Profile

end TokenAudit
