import TokenAudit.Requirement.Approval
import TokenAudit.Requirement.BatchTransfer.Verify
import TokenAudit.Requirement.Domain.Verify
import TokenAudit.Requirement.Erc3643
import TokenAudit.Requirement.Permit

/-!
# Requirement reports

One report type for all standards, with the checklist that decides on compliance.
-/

namespace TokenAudit

/-- What was found about a target. -/
inductive Report
  /-- ERC-1155 batch transfer. -/
  | batchTransfer (r : BatchTransferReport)
  /-- ERC-3643 batch transfer. -/
  | erc3643Transfer (r : Erc3643TransferReport)
  /-- ERC-3643 forced batch transfer. -/
  | erc3643ForcedTransfer (r : Erc3643ForcedTransferReport)
  /-- ERC-3643 batch burn. -/
  | erc3643Burn (r : Erc3643BurnReport)
  /-- ERC-3643 batch mint. -/
  | erc3643Mint (r : Erc3643MintReport)
  /-- Approval of an operator. -/
  | approval (r : ApprovalReport)
  /-- ERC-2612 permit. -/
  | permit (r : PermitReport)
  /-- ERC-5267 domain description. -/
  | domain (r : DomainReport)
  deriving Repr, BEq, DecidableEq

namespace Report

/-- The requirements that decide on compliance, in report order. -/
def checklist : Report → Checklist
  | batchTransfer r => r.checklist
  | erc3643Transfer r => r.checklist
  | erc3643ForcedTransfer r => r.checklist
  | erc3643Burn r => r.checklist
  | erc3643Mint r => r.checklist
  | approval r => r.checklist
  | permit r => r.checklist
  | domain r => r.checklist

/-- The report as an object. -/
def toJson : Report → Json
  | batchTransfer r => r.toJson
  | domain r => r.toJson
  | report => report.checklist.toJson

/-- Every requirement is met. -/
def allMet (report : Report) : Bool :=
  report.checklist.all (·.2)

/-- Some requirement is met. -/
def someMet (report : Report) : Bool :=
  report.checklist.any (·.2)

/-- The verdict on one requirement. -/
def get? (report : Report) (requirement : String) : Option Bool :=
  report.checklist.lookup requirement

/-- Whether the single transfer was found to be called. -/
def hasGasFamilyError : Report → Bool
  | batchTransfer r => r.gasFamily == some true
  | _ => false

end Report

namespace Standard

/-- Checks the requirements of a standard on a target and its callees. -/
def verify (standard : Standard) (subject : Subject) : Except OffsetFault Report :=
  match standard with
  | erc1155BatchTransfer => (BatchTransfer.verify subject).map .batchTransfer
  | erc3643BatchTransfer => .ok (.erc3643Transfer (Erc3643.verifyTransfer subject))
  | erc3643BatchForcedTransfer => .ok (.erc3643ForcedTransfer (Erc3643.verifyForcedTransfer subject))
  | erc3643BatchMint => .ok (.erc3643Mint (Erc3643.verifyMint subject))
  | erc3643BatchBurn => .ok (.erc3643Burn (Erc3643.verifyBurn subject))
  | setApprovalForAll => .ok (.approval (Approval.verify subject))
  | erc2612Permit => .ok (.permit (Permit.verify subject))
  | erc5267Domain => .ok (.domain (Domain.verify subject))

/-- The report with what the names of the callees show by themselves. Only batch transfers take note
of them. -/
def applyCallees (standard : Standard) (profile : Profile) (report : Report)
    (callees : List Function) : Report :=
  match standard, report with
  | erc1155BatchTransfer, .batchTransfer r =>
    .batchTransfer (BatchTransfer.applyCallees profile r callees)
  | _, report => report

end Standard

end TokenAudit
