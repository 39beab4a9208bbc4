import TokenAudit.Proofs.BatchTransfer.EventPlace
import TokenAudit.Proofs.Requirement.Codes

/-!
# What the check of a batch transfer finds

A check that is not broken off goes through the conditions and then through the units, one after the
other. Its findings on the caller, on the lengths, on the event and on the recipient's code are
plain statements about some condition or some unit; the order of the units has no part in them.

## Main definitions

* `ternaryIn`, `contractIn`: what a text says about the recipient's code.

## Main results

* `conditionFindings_eq`: what the conditions show.
* `step_eq_ok`, `foldlM_step_eq_ok`: what one unit adds, and what all units add.
* `verify_eq_ok`: the report of a check that is not broken off.
-/

namespace TokenAudit.BatchTransfer

open Pattern

/-! ## Conditions -/

/-- Looking at conditions one after the other finds what some condition shows. -/
theorem foldl_applyCondition (params : Params) (aliases : List String)
    (conditions : List Condition) (report : BatchTransferReport) :
    conditions.foldl (applyCondition params aliases) report =
      { report with
        sender := report.sender || conditions.any (showsSender params)
        approval := report.approval || conditions.any (showsApproval params)
        zeroAddress := report.zeroAddress || conditions.any (showsNonzero params)
        lengthMatching :=
          report.lengthMatching || conditions.any (showsLength params aliases) } := by
  induction conditions generalizing report with
  | nil => simp
  | cons c rest ih =>
    rw [List.foldl_cons, ih]
    simp only [applyCondition, List.any_cons, Bool.or_assoc]

/-- The names that stand for the length of the target's list of ids. -/
def lengthAliases (subject : Subject) : List String :=
  ((Params.of subject).ids.map (lengthNames subject.units)).getD []

/-- What the conditions of all units show. -/
theorem conditionFindings_eq (subject : Subject) :
    conditionFindings subject =
      { BatchTransferReport.start subject.profile with
        sender := (Condition.harvest subject.units).any (showsSender (Params.of subject))
        approval := (Condition.harvest subject.units).any (showsApproval (Params.of subject))
        zeroAddress := (Condition.harvest subject.units).any (showsNonzero (Params.of subject))
        lengthMatching := (Condition.harvest subject.units).any
          (showsLength (Params.of subject) (lengthAliases subject)) } := by
  rw [conditionFindings, foldl_applyCondition]
  rfl

/-! ## Units -/

/-- Whether a text has the `require` that tells recipients with code from those without. -/
def ternaryIn (recipient : Option String) (code : List Char) : Bool :=
  recipient.any fun name => anyMatch (ternaryGuards name) (Text.condenseChars code)

/-- Whether a text checks the recipient for code. -/
def contractIn (recipient : Option String) (code : List Char) : Bool :=
  recipient.any fun name =>
    anyMatch (codeLengthGuards name) (Text.condenseChars code) ||
      anyMatch (ternaryGuards name) (Text.condenseChars code) ||
      (isContractGuard name).finds (Text.condenseChars code)

/-- The event is found if it has been found or is in the unit. -/
theorem findEvent_eventFound (progress : Progress) (unit : CodeUnit) :
    (findEvent progress unit).report.eventFound =
      (progress.report.eventFound || event.isMatch unit.code) := by
  rw [findEvent, isMatch]
  cases hfound : progress.report.eventFound with
  | true => simp [hfound]
  | false => cases event.find? unit.code <;> simp [hfound]

/-- Looking for the event touches no other finding. -/
theorem findEvent_report (progress : Progress) (unit : CodeUnit) :
    (findEvent progress unit).report =
      { progress.report with eventFound := (findEvent progress unit).report.eventFound } := by
  rw [findEvent]
  split
  · rfl
  · split <;> rfl

/-- The check of the order touches the finding on the order only. -/
theorem checkOrder_eq_ok {progress next : Progress} {unit : CodeUnit}
    (h : checkOrder progress unit = .ok next) :
    ∃ order, next.report = { progress.report with eventOrder := order } := by
  rw [checkOrder] at h
  split at h
  · cases h
    exact ⟨progress.report.eventOrder, rfl⟩
  · split at h
    · split at h
      · cases h
      · cases h
        exact ⟨_, rfl⟩
    · cases h
      exact ⟨progress.report.eventOrder, rfl⟩

/-- What a unit shows about the recipient's code, and some finding on the answer. -/
theorem checkContract_eq (recipient : Option String) (report : BatchTransferReport)
    (unit : CodeUnit) :
    ∃ received, checkContract recipient report unit =
      { report with
        zeroAddress := report.zeroAddress && !ternaryIn recipient unit.code
        toIsContract := report.toIsContract || contractIn recipient unit.code
        onReceived := received } := by
  cases recipient with
  | none => exact ⟨report.onReceived, by simp [checkContract, ternaryIn, contractIn]⟩
  | some name =>
    refine ⟨report.onReceived || ternaryIn (some name) unit.code, ?_⟩
    simp only [checkContract, ternaryIn, contractIn, Option.any_some, Bool.or_assoc]

/-- The check of the answer touches the finding on the answer only. -/
theorem checkReceiver_eq (params : Params) (progress : Progress) (unit : CodeUnit) :
    ∃ received, checkReceiver params progress unit =
      { progress.report with onReceived := received } := by
  rw [checkReceiver]
  split
  · exact ⟨progress.report.onReceived, rfl⟩
  · split
    · exact ⟨true, rfl⟩
    · exact ⟨progress.report.onReceived, rfl⟩

/-- What one unit adds to the findings, those on the order and on the answer apart. -/
theorem step_eq_ok {params : Params} {progress next : Progress} {unit : CodeUnit}
    (h : step params progress unit = .ok next) :
    ∃ order received, next.report =
      { progress.report with
        eventFound := progress.report.eventFound || event.isMatch unit.code
        eventOrder := order
        zeroAddress := progress.report.zeroAddress && !ternaryIn params.recipient unit.code
        toIsContract := progress.report.toIsContract || contractIn params.recipient unit.code
        onReceived := received } := by
  rw [step_eq_map_finish] at h
  cases hcheck : checkOrder (findEvent progress unit) unit with
  | error fault =>
    rw [hcheck] at h
    cases h
  | ok checked =>
    rw [hcheck] at h
    cases h
    obtain ⟨order, horder⟩ := checkOrder_eq_ok hcheck
    obtain ⟨asked, hcontract⟩ := checkContract_eq params.recipient checked.report unit
    obtain ⟨received, hreceiver⟩ := checkReceiver_eq params
      { checked with report := checkContract params.recipient checked.report unit } unit
    refine ⟨order, received, ?_⟩
    rw [finish, hreceiver, hcontract, horder, findEvent_report, findEvent_eventFound]

/-- What all units add to the findings. -/
theorem foldlM_step_eq_ok {params : Params} {units : List CodeUnit} {progress last : Progress}
    (h : units.foldlM (step params) progress = .ok last) :
    ∃ order received, last.report =
      { progress.report with
        eventFound := progress.report.eventFound || units.any fun unit => event.isMatch unit.code
        eventOrder := order
        zeroAddress := progress.report.zeroAddress &&
          !units.any fun unit => ternaryIn params.recipient unit.code
        toIsContract := progress.report.toIsContract ||
          units.any fun unit => contractIn params.recipient unit.code
        onReceived := received } := by
  induction units generalizing progress with
  | nil =>
    cases h
    exact ⟨last.report.eventOrder, last.report.onReceived, by simp⟩
  | cons unit rest ih =>
    rw [List.foldlM_cons] at h
    cases hstep : step params progress unit with
    | error fault =>
      rw [hstep] at h
      cases h
    | ok next =>
      rw [hstep] at h
      obtain ⟨_, _, hnext⟩ := step_eq_ok hstep
      obtain ⟨order, received, hlast⟩ := ih h
      refine ⟨order, received, ?_⟩
      rw [hlast, hnext]
      simp only [List.any_cons, Bool.or_assoc, Bool.not_or, Bool.and_assoc]

/-- The report of a check that is not broken off: what the conditions show, less the guard against
the zero address if the code is told apart in some unit, and what some unit shows about the event
and the recipient's code. -/
theorem verify_eq_ok {subject : Subject} {report : BatchTransferReport}
    (h : verify subject = .ok report) :
    ∃ order received, report =
      { conditionFindings subject with
        eventFound := subject.units.any fun unit => event.isMatch unit.code
        eventOrder := order
        zeroAddress := (conditionFindings subject).zeroAddress &&
          !subject.units.any fun unit => ternaryIn (Params.of subject).recipient unit.code
        toIsContract := subject.units.any fun unit =>
          contractIn (Params.of subject).recipient unit.code
        onReceived := received } := by
  obtain ⟨last, hrun, rfl⟩ := foldlM_step_of_verify h
  obtain ⟨order, received, hlast⟩ := foldlM_step_eq_ok hrun
  have hcontract : (conditionFindings subject).toIsContract = false := by
    rw [conditionFindings_eq]
    rfl
  refine ⟨order, received, ?_⟩
  rw [hlast]
  simp only [conditionFindings_eventFound, hcontract, Bool.false_or]

end TokenAudit.BatchTransfer
