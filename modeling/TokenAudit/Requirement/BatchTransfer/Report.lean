import TokenAudit.Requirement.Context

/-!
# Findings about a batch transfer of ERC-1155
-/

namespace TokenAudit

/-- What was found about a batch transfer. -/
structure BatchTransferReport where
  /-- Some guard compares the caller with the sender. -/
  sender : Bool
  /-- Some guard checks the caller's approval. -/
  approval : Bool
  /-- Some guard refuses the zero address. -/
  zeroAddress : Bool
  /-- Some guard compares the lengths of the lists. -/
  lengthMatching : Bool
  /-- No transfer call follows the event. -/
  eventOrder : Bool
  /-- The event is emitted. -/
  eventFound : Bool
  /-- The recipient is checked for code. -/
  toIsContract : Bool
  /-- The answer of a recipient with code is checked. -/
  onReceived : Bool
  /-- Whether the single transfer is called; known only under the gas-family profile. -/
  gasFamily : Option Bool
  deriving Repr, BEq, DecidableEq

namespace BatchTransferReport

/-- Nothing found yet. -/
def start (profile : Profile) : BatchTransferReport :=
  { sender := false, approval := false, zeroAddress := false, lengthMatching := false,
    eventOrder := false, eventFound := false, toIsContract := false, onReceived := false,
    gasFamily := if profile == .gasFamily then some false else none }

/-- The verdicts on a batch transfer. -/
def checklist (r : BatchTransferReport) : Checklist :=
  [("sender_check", r.sender), ("approval_check", r.approval),
   ("zero_address_check", r.zeroAddress), ("length_matching_check", r.lengthMatching),
   ("event_emission_order", r.eventOrder), ("transfer_batch_event_found", r.eventFound),
   ("to_isContract_check", r.toIsContract), ("on_received_check", r.onReceived)]

/-- The report as an object: the verdicts, and the gas finding if there is one. -/
def toJson (r : BatchTransferReport) : Json :=
  .obj (r.checklist.map (fun (name, met) => (name, .bool met)) ++
    (r.gasFamily.map fun found => ("gas_family_errors", Json.bool found)).toList)

end BatchTransferReport

end TokenAudit
