import TokenAudit.Proofs.BatchTransfer.EventOrder

/-!
# The ternary on the recipient's code

A `require` that tells recipients with code from those without takes the place of a guard against
the zero address. Units may hold it in any order and any number: once it is found the guard does not
count, the recipient counts as checked for code and its answer as checked, and no other finding
changes.

To say what the other findings would be without the rule, the check is stated with the rule as a
parameter. With the rule as it is, this is the check itself.

## Main definitions

* `verifyWith`: the check where the ternary rule fires in given units.
* `TernaryFound`, `ZeroGuardFound`: what the rules on the zero address look for in a subject.
* `Coherent`: what the findings on the event and on the recipient say about each other.

## Main results

* `verifyWith_ternaryIn`: with the rule as it is, this is the check.
* `verifyWith_forgetRecipient`: what is not about the recipient does not depend on the rule.
* `Coherent.step`, `Coherent.run`: one unit and all units keep the findings coherent.
* `verify_ternary_overrides`: what the rule does to a report.
-/

namespace TokenAudit.BatchTransfer

open Pattern

/-! ## The check with the rule as a parameter -/

/-- Looks for checks of the recipient's code, where `fires` says whether the ternary rule fires. -/
def checkContractWith (fires : Bool) (recipient : Option String) (report : BatchTransferReport)
    (unit : CodeUnit) : BatchTransferReport :=
  match recipient with
  | none => report
  | some recipient =>
    let condensed := Text.condenseChars unit.code
    { report with
      zeroAddress := report.zeroAddress && !fires
      toIsContract := report.toIsContract || anyMatch (codeLengthGuards recipient) condensed ||
        fires || (isContractGuard recipient).finds condensed
      onReceived := report.onReceived || fires }

/-- What is looked for in a unit once the order of the event and the calls has been checked. -/
def finishWith (fires : CodeUnit → Bool) (params : Params) (unit : CodeUnit)
    (progress : Progress) : Progress :=
  let progress :=
    { progress with
      report := checkContractWith (fires unit) params.recipient progress.report unit }
  { progress with report := checkReceiver params progress unit }

/-- What has been found after one more unit. -/
def stepWith (fires : CodeUnit → Bool) (params : Params) (progress : Progress) (unit : CodeUnit) :
    Except OffsetFault Progress :=
  (checkOrder (findEvent progress unit) unit).map (finishWith fires params unit)

/-- Checks the requirements, where the ternary rule fires in the units that `fires` says. -/
def verifyWith (fires : CodeUnit → Bool) (subject : Subject) :
    Except OffsetFault BatchTransferReport :=
  (subject.units.foldlM (stepWith fires (Params.of subject))
    ⟨conditionFindings subject, none⟩).map (·.report)

theorem stepWith_ternaryIn (params : Params) :
    stepWith (fun unit => ternaryIn params.recipient unit.code) params = step params := by
  have hcontract : ∀ report unit,
      checkContractWith (ternaryIn params.recipient unit.code) params.recipient report unit =
        checkContract params.recipient report unit := by
    intro report unit
    cases params.recipient <;> rfl
  funext progress unit
  rw [step_eq_map_finish, stepWith]
  refine congrArg (Except.map · _) (funext fun checked => ?_)
  rw [finishWith, hcontract]
  rfl

/-- With the rule as it is, this is the check. -/
theorem verifyWith_ternaryIn (subject : Subject) :
    verifyWith (fun unit => ternaryIn (Params.of subject).recipient unit.code) subject =
      verify subject := by
  rw [verifyWith, stepWith_ternaryIn]
  rfl

/-! ## What is not about the recipient -/

/-- The findings with those on the recipient left open. -/
def forgetRecipient (report : BatchTransferReport) : BatchTransferReport :=
  { report with zeroAddress := false, toIsContract := false, onReceived := false }

/-- What has been found, with the findings on the recipient left open. -/
def Progress.forgetRecipient (progress : Progress) : Progress :=
  { progress with report := BatchTransfer.forgetRecipient progress.report }

theorem forgetRecipient_findEvent (progress : Progress) (unit : CodeUnit) :
    (findEvent progress unit).forgetRecipient = findEvent progress.forgetRecipient unit := by
  rw [findEvent, findEvent]
  have hfound : progress.forgetRecipient.report.eventFound = progress.report.eventFound := rfl
  rw [hfound]
  split
  · rfl
  · split <;> rfl

theorem forgetRecipient_checkOrder (progress : Progress) (unit : CodeUnit) :
    (checkOrder progress unit).map Progress.forgetRecipient =
      checkOrder progress.forgetRecipient unit := by
  rw [checkOrder, checkOrder]
  have hplace : progress.forgetRecipient.place = progress.place := rfl
  rw [hplace]
  split
  · rfl
  · split
    · split <;> rfl
    · rfl

theorem forgetRecipient_finishWith (fires : CodeUnit → Bool) (params : Params) (unit : CodeUnit)
    (progress : Progress) :
    (finishWith fires params unit progress).forgetRecipient = progress.forgetRecipient := by
  have hcontract : ∀ fires report,
      forgetRecipient (checkContractWith fires params.recipient report unit) =
        forgetRecipient report := by
    intro fires report
    cases params.recipient <;> rfl
  obtain ⟨received, hreceiver⟩ := checkReceiver_eq params
    { progress with
      report := checkContractWith (fires unit) params.recipient progress.report unit } unit
  rw [finishWith, Progress.forgetRecipient, hreceiver]
  exact congrArg (Progress.mk · progress.place) (hcontract _ _)

/-- What one unit shows beside the recipient is what it shows about the event. -/
theorem forgetRecipient_stepWith (fires : CodeUnit → Bool) (params : Params) (progress : Progress)
    (unit : CodeUnit) :
    (stepWith fires params progress unit).map Progress.forgetRecipient =
      checkOrder (findEvent progress.forgetRecipient unit) unit := by
  rw [← forgetRecipient_findEvent, ← forgetRecipient_checkOrder, stepWith]
  cases checkOrder (findEvent progress unit) unit with
  | error fault => rfl
  | ok checked => exact congrArg Except.ok (forgetRecipient_finishWith fires params unit checked)

/-- So it is for all units. -/
theorem forgetRecipient_foldlM_stepWith (fires : CodeUnit → Bool) (params : Params)
    (units : List CodeUnit) (progress : Progress) :
    (units.foldlM (stepWith fires params) progress).map Progress.forgetRecipient =
      units.foldlM (fun progress unit => checkOrder (findEvent progress unit) unit)
        progress.forgetRecipient := by
  induction units generalizing progress with
  | nil => rfl
  | cons unit rest ih =>
    rw [List.foldlM_cons, List.foldlM_cons, ← forgetRecipient_stepWith fires params]
    cases stepWith fires params progress unit with
    | error fault => rfl
    | ok next => exact ih next

/-- What is not about the recipient does not depend on where the ternary rule fires. -/
theorem verifyWith_forgetRecipient (fires fires' : CodeUnit → Bool) (subject : Subject) :
    (verifyWith fires subject).map forgetRecipient =
      (verifyWith fires' subject).map forgetRecipient := by
  have hrun : ∀ fires, (verifyWith fires subject).map forgetRecipient =
      ((subject.units.foldlM (stepWith fires (Params.of subject))
        ⟨conditionFindings subject, none⟩).map Progress.forgetRecipient).map (·.report) := by
    intro fires
    rw [verifyWith]
    cases subject.units.foldlM (stepWith fires (Params.of subject))
      ⟨conditionFindings subject, none⟩ <;> rfl
  rw [hrun, hrun, forgetRecipient_foldlM_stepWith, forgetRecipient_foldlM_stepWith]

/-! ## What findings say about each other -/

/-- What the findings on the event and on the recipient say about each other after the units
`read`. -/
structure Coherent (recipient : Option String) (read : List CodeUnit) (progress : Progress) :
    Prop where
  /-- An event that has a place has been found. -/
  placed : progress.place.isSome = true → progress.report.eventFound = true
  /-- There is no order without an event. -/
  ordered : progress.report.eventOrder = true → progress.report.eventFound = true
  /-- The ternary stands for a checked answer. -/
  overridden : (∃ unit ∈ read, ternaryIn recipient unit.code = true) →
    progress.report.onReceived = true
  /-- No answer counts unless the recipient is checked for code. -/
  guarded : progress.report.onReceived = true → progress.report.toIsContract = true
  /-- Without the ternary no answer counts before the event. -/
  answered : progress.report.onReceived = true →
    (∃ unit ∈ read, ternaryIn recipient unit.code = true) ∨ progress.report.eventFound = true

variable {params : Params} {progress checked next last : Progress} {unit : CodeUnit}

/-- The ternary is a check for code. -/
theorem contractIn_of_ternaryIn {recipient : Option String} {code : List Char}
    (h : ternaryIn recipient code = true) : contractIn recipient code = true := by
  cases recipient with
  | none => cases h
  | some name =>
    rw [ternaryIn, Option.any_some] at h
    simp [contractIn, h]

/-- An answer is checked only where the recipient is checked for code, here or before. -/
theorem isContract_of_answerChecked {code : List Char} {isContract : Bool}
    (h : answerChecked code params isContract = true) :
    isContract = true ∨ contractIn params.recipient code = true := by
  rw [answerChecked, Bool.and_eq_true, Bool.or_eq_true] at h
  refine h.1.imp id fun hguard => ?_
  cases hname : params.recipient with
  | none =>
    rw [hname] at hguard
    cases hguard
  | some name =>
    rw [hname, Option.any_some] at hguard
    simp [contractIn, hguard]

/-- An answer counts if it did before, for the ternary, or where it is checked in a unit whose label
is not the event's, by what is known about the recipient's code then. -/
theorem finish_onReceived (params : Params) (unit : CodeUnit) (checked : Progress) :
    (finish params unit checked).report.onReceived =
      (checked.report.onReceived || ternaryIn params.recipient unit.code ||
        (checked.place.any (·.label != unit.label) && answerChecked unit.code params
          (finish params unit checked).report.toIsContract)) := by
  have hcontract : (checkContract params.recipient checked.report unit).onReceived =
      (checked.report.onReceived || ternaryIn params.recipient unit.code) := by
    cases params.recipient with
    | none => simp [checkContract, ternaryIn]
    | some name => rfl
  have hcode : (finish params unit checked).report.toIsContract =
      (checkContract params.recipient checked.report unit).toIsContract := by
    obtain ⟨_, hreceiver⟩ := checkReceiver_eq params
      { checked with report := checkContract params.recipient checked.report unit } unit
    rw [finish, hreceiver]
  rw [hcode, ← hcontract, finish, checkReceiver]
  cases checked.place with
  | none => simp
  | some place =>
    simp only [Option.any_some]
    split
    · next hchecked => simp [hchecked]
    · next hchecked => simp [hchecked]

/-- The order is found only where the event has a place. -/
theorem checkOrder_eventOrder (h : checkOrder progress unit = .ok checked) :
    checked.place = progress.place ∧ checked.report.eventFound = progress.report.eventFound ∧
      (checked.report.eventOrder = true →
        progress.place.isSome = true ∨ progress.report.eventOrder = true) := by
  obtain ⟨order, horder⟩ := checkOrder_eq_ok h
  rw [checkOrder] at h
  cases hplace : progress.place with
  | none =>
    rw [hplace] at h
    cases h
    exact ⟨hplace, rfl, .inr⟩
  | some place =>
    refine ⟨?_, by rw [horder], fun _ => .inl rfl⟩
    simp only [hplace] at h
    split at h
    · split at h
      · cases h
      · cases h
        rfl
    · cases h
      exact hplace

/-- Looking for the event gives it a place only if it is found. -/
theorem findEvent_placed (hplaced : progress.place.isSome = true → progress.report.eventFound = true)
    (unit : CodeUnit) : (findEvent progress unit).place.isSome = true →
      (findEvent progress unit).report.eventFound = true := by
  rw [findEvent]
  split
  · exact hplaced
  · split
    · exact hplaced
    · exact fun _ => rfl

/-- One more unit keeps the findings coherent. -/
theorem Coherent.step {read : List CodeUnit} (hcoherent : Coherent params.recipient read progress)
    (h : step params progress unit = .ok next) :
    Coherent params.recipient (read ++ [unit]) next := by
  have hread : (∃ u ∈ read ++ [unit], ternaryIn params.recipient u.code = true) ↔
      (∃ u ∈ read, ternaryIn params.recipient u.code = true) ∨
        ternaryIn params.recipient unit.code = true := by
    simp [or_and_right, exists_or]
  obtain ⟨_, _, hnext⟩ := step_eq_ok h
  have hfoundNext : next.report.eventFound =
      (progress.report.eventFound || event.isMatch unit.code) := by rw [hnext]
  have hcodeNext : next.report.toIsContract =
      (progress.report.toIsContract || contractIn params.recipient unit.code) := by rw [hnext]
  -- The step looks for the event, then for the order, and only then at the recipient.
  rw [step_eq_map_finish] at h
  cases hcheck : checkOrder (findEvent progress unit) unit with
  | error fault =>
    rw [hcheck] at h
    cases h
  | ok checked =>
    rw [hcheck] at h
    cases h
    obtain ⟨_, horderOnly⟩ := checkOrder_eq_ok hcheck
    obtain ⟨hplace, hfound, horder⟩ := checkOrder_eventOrder hcheck
    have hplaced := findEvent_placed hcoherent.placed unit
    rw [← hplace, ← hfound, ← finish_eventFound params unit checked] at hplaced
    have hreceived : checked.report.onReceived = progress.report.onReceived := by
      rw [horderOnly, findEvent_report]
    have hanswer := finish_onReceived params unit checked
    rw [hreceived] at hanswer
    refine ⟨hplaced, fun hkept => ?_, fun hternary => ?_, fun hcounts => ?_, fun hcounts => ?_⟩
    · rw [finish_eventOrder] at hkept
      rcases horder hkept with hsome | hearlier
      · exact hplaced (hplace ▸ hsome)
      · rw [findEvent_report] at hearlier
        rw [hfoundNext, hcoherent.ordered hearlier, Bool.true_or]
    · rw [hanswer]
      rcases hread.mp hternary with hearlier | hhere
      · simp [hcoherent.overridden hearlier]
      · simp [hhere]
    · rw [hanswer, Bool.or_eq_true, Bool.or_eq_true] at hcounts
      rcases hcounts with (hearlier | hhere) | hchecked
      · rw [hcodeNext, hcoherent.guarded hearlier, Bool.true_or]
      · rw [hcodeNext, contractIn_of_ternaryIn hhere, Bool.or_true]
      · rcases isContract_of_answerChecked (Bool.and_eq_true_iff.mp hchecked).2 with hcode | hcode
        · exact hcode
        · rw [hcodeNext, hcode, Bool.or_true]
    · rw [hanswer, Bool.or_eq_true, Bool.or_eq_true] at hcounts
      rw [hread]
      rcases hcounts with (hearlier | hhere) | hchecked
      · rw [hfoundNext]
        exact (hcoherent.answered hearlier).imp .inl fun hfound => by rw [hfound, Bool.true_or]
      · exact .inl (.inr hhere)
      · refine .inr (hplaced ?_)
        cases hsome : checked.place with
        | none => simp [hsome] at hchecked
        | some place => rfl

/-- All units keep the findings coherent. -/
theorem Coherent.run {read units : List CodeUnit}
    (hcoherent : Coherent params.recipient read progress)
    (h : units.foldlM (BatchTransfer.step params) progress = .ok last) :
    Coherent params.recipient (read ++ units) last := by
  induction units generalizing read progress with
  | nil =>
    cases h
    rwa [List.append_nil]
  | cons unit rest ih =>
    obtain ⟨next, hstep, hrest⟩ := foldlM_step_cons h
    have hlast := ih (hcoherent.step hstep) hrest
    rwa [List.append_assoc] at hlast

/-- The findings start coherent, since the conditions show nothing about the event and the
recipient's code. -/
theorem coherent_start (subject : Subject) (recipient : Option String) :
    Coherent recipient [] ⟨conditionFindings subject, none⟩ := by
  rw [conditionFindings_eq]
  exact ⟨nofun, nofun, by simp, nofun, nofun⟩

/-! ## The report -/

/-- Some unit has, once its comments are stripped, the ternary on the code of the target's second
parameter. -/
def TernaryFound (subject : Subject) : Prop :=
  ∃ recipient, subject.param? 1 = some recipient ∧ ∃ unit ∈ subject.units,
    anyMatch (ternaryGuards recipient) (Text.condenseChars unit.code) = true

/-- Some condition matches the rule of its own kind on the zero address and the target's second
parameter. -/
def ZeroGuardFound (subject : Subject) : Prop :=
  ∃ recipient, subject.param? 1 = some recipient ∧ ∃ c ∈ Condition.harvest subject.units,
    anyMatch (zeroRules c.kind recipient) c.content = true

theorem exists_ternaryIn_iff (subject : Subject) :
    (∃ unit ∈ subject.units, ternaryIn (Params.of subject).recipient unit.code = true) ↔
      TernaryFound subject := by
  rw [TernaryFound, Params.of]
  cases subject.param? 1 <;> simp [ternaryIn]

theorem any_showsNonzero_iff (subject : Subject) :
    (Condition.harvest subject.units).any (showsNonzero (Params.of subject)) = true ↔
      ZeroGuardFound subject := by
  rw [ZeroGuardFound, Params.of, List.any_eq_true]
  simp only [showsNonzero]
  cases subject.param? 1 <;> simp

/-- In every report of a batch transfer, a guard against the zero address counts exactly if some
condition has one and no unit has the ternary on the recipient's code. The ternary counts as a check
for code and as a checked answer, and leaves the findings on the caller, on the lengths and on the
event as they would be if its rule never fired. An answer counts only with a check for code, and
without the ternary only with the event; an order is found only with the event. -/
theorem verify_ternary_overrides {subject : Subject} {report : BatchTransferReport}
    (h : verify subject = .ok report) :
    (report.zeroAddress = true ↔ ¬TernaryFound subject ∧ ZeroGuardFound subject) ∧
    (TernaryFound subject → report.toIsContract = true ∧ report.onReceived = true) ∧
    (∃ other, verifyWith (fun _ => false) subject = .ok other ∧
      report.sender = other.sender ∧ report.approval = other.approval ∧
      report.lengthMatching = other.lengthMatching ∧ report.eventFound = other.eventFound ∧
      report.eventOrder = other.eventOrder) ∧
    (report.onReceived = true → report.toIsContract = true) ∧
    (report.onReceived = true → ¬TernaryFound subject → report.eventFound = true) ∧
    (report.eventOrder = true → report.eventFound = true) := by
  obtain ⟨progress, hrun, rfl⟩ := foldlM_step_of_verify h
  have hcoherent := (coherent_start subject (Params.of subject).recipient).run hrun
  rw [List.nil_append] at hcoherent
  have hternary := exists_ternaryIn_iff subject
  refine ⟨?_, fun hfound => ?_, ?_, hcoherent.guarded, fun hcounts hnone => ?_, hcoherent.ordered⟩
  · obtain ⟨_, _, hreport⟩ := verify_eq_ok h
    have hzero : progress.report.zeroAddress = ((conditionFindings subject).zeroAddress &&
        !subject.units.any fun unit => ternaryIn (Params.of subject).recipient unit.code) := by
      rw [hreport]
    have hcondition : (conditionFindings subject).zeroAddress =
        (Condition.harvest subject.units).any (showsNonzero (Params.of subject)) := by
      rw [conditionFindings_eq]
    rw [hzero, hcondition, Bool.and_eq_true, any_showsNonzero_iff, Bool.not_eq_true',
      ← Bool.not_eq_true, List.any_eq_true, hternary, and_comm]
  · have hcounts := hcoherent.overridden (hternary.mpr hfound)
    exact ⟨hcoherent.guarded hcounts, hcounts⟩
  · -- Both runs look at the event alike, and the conditions come before the rule.
    have hsame := verifyWith_forgetRecipient
      (fun unit => ternaryIn (Params.of subject).recipient unit.code) (fun _ => false) subject
    rw [verifyWith_ternaryIn, h] at hsame
    cases hother : verifyWith (fun _ => false) subject with
    | error fault =>
      rw [hother] at hsame
      cases hsame
    | ok other =>
      rw [hother] at hsame
      have hfields : forgetRecipient progress.report = forgetRecipient other :=
        Except.ok.inj hsame
      exact ⟨other, rfl, congrArg (·.sender) hfields, congrArg (·.approval) hfields,
        congrArg (·.lengthMatching) hfields, congrArg (·.eventFound) hfields,
        congrArg (·.eventOrder) hfields⟩
  · exact (hcoherent.answered hcounts).resolve_left (mt hternary.mp hnone)

/-- A batch transfer with a guard against the zero address and with the ternary. -/
def guardedTwice : Subject :=
  let body := "\x7b require(to != address(0)); require(to.code.length == 0 ? to != 0x0 : ok); \x7d"
  ⟨⟨"f", "address from, address to", "", 0, 77, body, true,
    .ofList [("from", "address"), ("to", "address")]⟩, [], "", .standard⟩

/-- The guard does not count beside the ternary. -/
theorem verify_ternary_overrides_guard :
    ZeroGuardFound guardedTwice ∧ ∃ report, verify guardedTwice = .ok report ∧
      report.zeroAddress = false ∧ report.toIsContract = true ∧ report.onReceived = true := by
  have hparam : guardedTwice.param? 1 = some "to" := by decide +kernel
  have hternary : TernaryFound guardedTwice :=
    ⟨"to", hparam, _, List.mem_cons_self, by decide +kernel⟩
  have hguard : ZeroGuardFound guardedTwice :=
    (any_showsNonzero_iff guardedTwice).mp (by decide +kernel)
  cases hverify : verify guardedTwice with
  | error fault =>
    have hnone : (verify guardedTwice).toOption.isSome = true := by decide +kernel
    rw [hverify] at hnone
    cases hnone
  | ok report =>
    obtain ⟨hzero, hcounts, _⟩ := verify_ternary_overrides hverify
    refine ⟨hguard, report, rfl, ?_, hcounts hternary⟩
    exact Bool.eq_false_iff.mpr fun hmet => (hzero.mp hmet).1 hternary

end TokenAudit.BatchTransfer
