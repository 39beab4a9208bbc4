import TokenAudit.Requirement.BatchTransfer.Receiver

/-!
# Requirements on a batch transfer of ERC-1155

The place of the first event is remembered with the label of its unit, and every later unit of that
label is read from that place on. Overloads of one callee share a label, so the place may lie
outside a later unit; then the audit of the target is broken off.
-/

namespace TokenAudit

/-- A place that was to be read lies outside a unit, or inside a character of it. -/
structure OffsetFault where
  /-- The label of the unit. -/
  label : Label
  /-- The byte offset. -/
  offset : Nat
  deriving Repr, BEq, DecidableEq

namespace BatchTransfer

open Pattern

/-- The event that announces a batch transfer. -/
def event : Pattern :=
  sequence [lit "emit", blanks1, lit "TransferBatch", blanks, lit "("]

/-- Calls that hand control away and must not follow the event. -/
def transferCalls : List String :=
  ["safeTransferFrom(", "safeBatchTransferFrom("]

/-- The first event: the label of its unit and its byte offset there. -/
structure EventPlace where
  /-- The label of the unit. -/
  label : Label
  /-- The byte offset. -/
  offset : Nat
  deriving Repr, BEq, DecidableEq

/-- What has been found, and where the event is. -/
structure Progress where
  /-- The findings. -/
  report : BatchTransferReport
  /-- The place of the first event. -/
  place : Option EventPlace
  deriving Repr, BEq, DecidableEq

/-- Looks for the event in a unit, unless it has been found. -/
def findEvent (progress : Progress) (unit : CodeUnit) : Progress :=
  if progress.report.eventFound then progress
  else
    match event.find? unit.code with
    | none => progress
    | some found =>
      { report := { progress.report with eventFound := true }
        place := some ⟨unit.label, found.start⟩ }

/-- Looks for transfer calls after the event, in a unit with the event's label. -/
def checkOrder (progress : Progress) (unit : CodeUnit) : Except OffsetFault Progress :=
  match progress.place with
  | none => .ok progress
  | some place =>
    if place.label == unit.label then
      match Text.dropBytes? place.offset unit.code with
      | none => .error ⟨place.label, place.offset⟩
      | some after =>
        let follows := transferCalls.any fun call => Text.hasInfix call.toList after
        .ok { progress with report := { progress.report with eventOrder := !follows } }
    else .ok progress

/-- Looks for checks of the recipient's code. The `require` that tells recipients with code from
those without takes the place of a guard against the zero address. -/
def checkContract (recipient : Option String) (report : BatchTransferReport) (unit : CodeUnit) :
    BatchTransferReport :=
  match recipient with
  | none => report
  | some recipient =>
    let condensed := Text.condenseChars unit.code
    let byLength := anyMatch (codeLengthGuards recipient) condensed
    let byTernary := anyMatch (ternaryGuards recipient) condensed
    let byCall := (isContractGuard recipient).finds condensed
    { report with
      zeroAddress := report.zeroAddress && !byTernary
      toIsContract := report.toIsContract || byLength || byTernary || byCall
      onReceived := report.onReceived || byTernary }

/-- Looks for a checked answer of the recipient, in a unit whose label is not the event's. -/
def checkReceiver (params : Params) (progress : Progress) (unit : CodeUnit) : BatchTransferReport :=
  match progress.place with
  | none => progress.report
  | some place =>
    if place.label != unit.label &&
        answerChecked unit.code params progress.report.toIsContract then
      { progress.report with onReceived := true }
    else progress.report

/-- What has been found after one more unit. -/
def step (params : Params) (progress : Progress) (unit : CodeUnit) : Except OffsetFault Progress := do
  let progress ← checkOrder (findEvent progress unit) unit
  let progress := { progress with report := checkContract params.recipient progress.report unit }
  return { progress with report := checkReceiver params progress unit }

/-- The findings that the conditions of all units give. -/
def conditionFindings (subject : Subject) : BatchTransferReport :=
  let params := Params.of subject
  let units := subject.units
  let aliases := (params.ids.map (lengthNames units)).getD []
  (Condition.harvest units).foldl (applyCondition params aliases) (.start subject.profile)

/-- Checks the requirements. -/
def verify (subject : Subject) : Except OffsetFault BatchTransferReport := do
  let progress ← subject.units.foldlM (step (Params.of subject)) ⟨conditionFindings subject, none⟩
  return progress.report

/-- What the name of a called function shows by itself, whatever its body is. -/
def applyCallee (profile : Profile) (report : BatchTransferReport) (callee : String) :
    BatchTransferReport :=
  let mentions (part : String) := Text.occursIn part callee
  let operable := mentions "isOperatable" || mentions "isApprovedOrOwner"
  { report with
    onReceived := report.onReceived || mentions hook
    toIsContract := report.toIsContract || mentions "isContract"
    approval := report.approval || mentions "isApprovedForAll" || operable
    sender := report.sender || mentions "msgSender" || operable
    lengthMatching := report.lengthMatching || mentions "isSameLength"
    gasFamily :=
      if callee == "safeTransferFrom" && profile == .gasFamily then some true
      else report.gasFamily }

/-- What the names of all called functions show. -/
def applyCallees (profile : Profile) (report : BatchTransferReport) (callees : List Function) :
    BatchTransferReport :=
  callees.foldl (fun report f => applyCallee profile report f.name) report

end BatchTransfer

end TokenAudit
