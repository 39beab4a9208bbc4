import TokenAudit.Proofs.Audit.Isolation
import TokenAudit.Proofs.BatchTransfer.CalleeNames
import TokenAudit.Proofs.BatchTransfer.Findings

/-!
# What the gas-family profile adds

An audit under the gas-family profile finds what an audit under the standard profile finds, and
notes with each batch transfer whether one of its callees is the transfer of a single item. Nothing
else hangs on the profile. So the whole difference is told by one function on results: `withGas`
adds the findings that the profile asks for, and every step of an audit commutes with it.

## Main definitions

* `Implementation.withGas`, `AuditedFile.withGas`: a result with the findings that are added.
* `Implementation.SameBesidesGas`: two verdicts differ in the gas finding at most.

## Main results

* `BatchTransfer.step_withGas`, `BatchTransfer.foldlM_step_withGas`: the check of a batch transfer
  neither reads nor changes the finding.
* `Auditor.analyzeFile_gasFamily`: what the profile adds to the result of a file.
* `Auditor.analyzeFile_under_profiles`: the two results side by side.
-/

namespace TokenAudit

/-- The single transfer, whose name among the callees is a gas finding. -/
def singleTransfer : String :=
  "safeTransferFrom"

/-! ## Batch transfers -/

/-- The report with another gas finding. -/
def BatchTransferReport.withGas (gas : Option Bool) (r : BatchTransferReport) :
    BatchTransferReport :=
  { r with gasFamily := gas }

namespace BatchTransfer

variable (gas : Option Bool)

/-- The progress with another gas finding. -/
def Progress.withGas (progress : Progress) : Progress :=
  { progress with report := progress.report.withGas gas }

theorem findEvent_withGas (progress : Progress) (unit : CodeUnit) :
    findEvent (progress.withGas gas) unit = (findEvent progress unit).withGas gas := by
  have hfound : (progress.withGas gas).report.eventFound = progress.report.eventFound := rfl
  rw [findEvent, findEvent, hfound]
  split
  · rfl
  · split <;> rfl

theorem checkOrder_withGas (progress : Progress) (unit : CodeUnit) :
    checkOrder (progress.withGas gas) unit =
      (checkOrder progress unit).map (Progress.withGas gas) := by
  have hplace : (progress.withGas gas).place = progress.place := rfl
  rw [checkOrder, checkOrder, hplace]
  split
  · rfl
  · split
    · split <;> rfl
    · rfl

theorem checkContract_withGas (recipient : Option String) (report : BatchTransferReport)
    (unit : CodeUnit) :
    checkContract recipient (report.withGas gas) unit =
      (checkContract recipient report unit).withGas gas := by
  cases recipient <;> rfl

theorem checkReceiver_withGas (params : Params) (progress : Progress) (unit : CodeUnit) :
    checkReceiver params (progress.withGas gas) unit =
      (checkReceiver params progress unit).withGas gas := by
  have hplace : (progress.withGas gas).place = progress.place := rfl
  have hcontract : (progress.withGas gas).report.toIsContract = progress.report.toIsContract := rfl
  rw [checkReceiver, checkReceiver, hplace, hcontract]
  split
  · rfl
  · split <;> rfl

/-- One unit neither reads nor changes the gas finding. -/
theorem step_withGas (params : Params) (progress : Progress) (unit : CodeUnit) :
    step params (progress.withGas gas) unit =
      (step params progress unit).map (Progress.withGas gas) := by
  rw [step_eq_map_finish, step_eq_map_finish, findEvent_withGas, checkOrder_withGas]
  cases checkOrder (findEvent progress unit) unit with
  | error fault => rfl
  | ok checked =>
    have hfinish : finish params unit (checked.withGas gas) =
        (finish params unit checked).withGas gas := by
      have hcontract := checkContract_withGas gas params.recipient checked.report unit
      have hreceiver := checkReceiver_withGas gas params
        { checked with report := checkContract params.recipient checked.report unit } unit
      simp only [finish, Progress.withGas] at hreceiver ⊢
      rw [hcontract, hreceiver]
    exact congrArg Except.ok hfinish

/-- Neither do all units. -/
theorem foldlM_step_withGas (params : Params) (units : List CodeUnit) (progress : Progress) :
    units.foldlM (step params) (progress.withGas gas) =
      (units.foldlM (step params) progress).map (Progress.withGas gas) := by
  induction units generalizing progress with
  | nil => rfl
  | cons unit rest ih =>
    rw [List.foldlM_cons, List.foldlM_cons, step_withGas]
    cases step params progress unit with
    | error fault => rfl
    | ok next => exact ih next

/-- Under the gas-family profile the check starts with a finding of its own and goes on as under the
standard profile. -/
theorem verify_gasFamily (target : Function) (callees : List Function) (source : String) :
    verify ⟨target, callees, source, .gasFamily⟩ =
      (verify ⟨target, callees, source, .standard⟩).map
        (BatchTransferReport.withGas (some false)) := by
  have hconditions : conditionFindings ⟨target, callees, source, .gasFamily⟩ =
      (conditionFindings ⟨target, callees, source, .standard⟩).withGas (some false) := by
    rw [conditionFindings_eq, conditionFindings_eq]
    rfl
  have hrun := foldlM_step_withGas (some false) (Params.of ⟨target, callees, source, .standard⟩)
    (Subject.mk target callees source .standard).units
    ⟨conditionFindings ⟨target, callees, source, .standard⟩, none⟩
  unfold verify
  rw [hconditions]
  refine (congrArg (· >>= fun last => pure last.report) hrun).trans ?_
  cases List.foldlM (step (Params.of ⟨target, callees, source, .standard⟩))
    ⟨conditionFindings ⟨target, callees, source, .standard⟩, none⟩
    (Subject.mk target callees source .standard).units <;> rfl

/-- Under the standard profile a check has no gas finding. -/
theorem gasFamily_of_verify_eq_ok {target : Function} {callees : List Function} {source : String}
    {report : BatchTransferReport}
    (h : verify ⟨target, callees, source, .standard⟩ = .ok report) : report.gasFamily = none := by
  obtain ⟨order, received, rfl⟩ := verify_eq_ok h
  rw [conditionFindings_eq]
  rfl

/-- Under the standard profile no name of a callee is a gas finding. -/
theorem gasFamily_applyCallees (report : BatchTransferReport) (callees : List Function) :
    (applyCallees .standard report callees).gasFamily = report.gasFamily := by
  rw [gasFamily_applyCallees_eq, if_neg (by simp)]

/-- What the names of the callees show under the gas-family profile: the same, and whether the
single transfer is among them. -/
theorem applyCallees_gasFamily (found : Bool) (report : BatchTransferReport)
    (callees : List Function) :
    applyCallees .gasFamily (report.withGas (some found)) callees =
      (applyCallees .standard report callees).withGas
        (some (found || callees.any (·.name == singleTransfer))) := by
  refine BatchTransferReport.eq_of_checklist_eq ?_ ?_
  · -- The verdicts neither read the profile nor hold the finding.
    calc (applyCallees .gasFamily (report.withGas (some found)) callees).checklist
        = report.checklist.map fun entry =>
            (entry.1, entry.2 || (callees.map (·.name)).any (nameMeets · entry.1)) :=
          checklist_applyCallees ..
      _ = (applyCallees .standard report callees).checklist := (checklist_applyCallees ..).symm
  · rw [gasFamily_applyCallees_eq]
    by_cases hname : singleTransfer ∈ callees.map (·.name)
    · have hany : callees.any (·.name == singleTransfer) = true := by simpa using hname
      rw [hany, Bool.or_true]
      exact if_pos ⟨rfl, hname⟩
    · have hany : callees.any (·.name == singleTransfer) = false := by simpa using hname
      rw [hany, Bool.or_false]
      exact if_neg fun h => hname h.2

end BatchTransfer

/-! ## Verdicts -/

/-- The gas finding of a report; only batch transfers have one. -/
def Report.gasFamily? : Report → Option Bool
  | batchTransfer r => r.gasFamily
  | _ => none

/-- The report without its gas finding. -/
def Report.withoutGas : Report → Report
  | batchTransfer r => .batchTransfer (r.withGas none)
  | report => report

/-- The verdict with the finding that the gas-family profile adds. -/
def Implementation.withGas (verdict : Implementation) : Implementation :=
  { verdict with
    requirements := match verdict.requirements with
      | .batchTransfer r =>
        .batchTransfer (r.withGas (some (verdict.internalCalls.contains singleTransfer)))
      | report => report }

/-- Two verdicts differ in the gas finding at most. -/
structure Implementation.SameBesidesGas (a b : Implementation) : Prop where
  function : a.function = b.function
  start : a.start = b.start
  stop : a.stop = b.stop
  parameters : a.parameters = b.parameters
  internalCalls : a.internalCalls = b.internalCalls
  findings : a.requirements.withoutGas = b.requirements.withoutGas
  checklist : a.requirements.checklist = b.requirements.checklist
  allMet : a.allMet = b.allMet
  someMet : a.someMet = b.someMet

@[simp]
theorem Implementation.checklist_withGas (verdict : Implementation) :
    verdict.withGas.requirements.checklist = verdict.requirements.checklist := by
  unfold withGas
  cases verdict.requirements <;> rfl

@[simp]
theorem Implementation.allMet_withGas (verdict : Implementation) :
    verdict.withGas.allMet = verdict.allMet := by
  simp only [allMet, Report.allMet, checklist_withGas]

@[simp]
theorem Implementation.someMet_withGas (verdict : Implementation) :
    verdict.withGas.someMet = verdict.someMet := by
  simp only [someMet, Report.someMet, checklist_withGas]

theorem Implementation.sameBesidesGas_withGas (verdict : Implementation) :
    verdict.SameBesidesGas verdict.withGas where
  function := rfl
  start := rfl
  stop := rfl
  parameters := rfl
  internalCalls := rfl
  findings := by
    unfold withGas
    cases verdict.requirements <;> rfl
  checklist := verdict.checklist_withGas.symm
  allMet := verdict.allMet_withGas.symm
  someMet := verdict.someMet_withGas.symm

/-- The counts over verdicts do not hang on their gas findings. -/
theorem FileSummary.of_map_withGas (verdicts : List Implementation) :
    FileSummary.of (verdicts.map Implementation.withGas) = FileSummary.of verdicts := by
  simp [FileSummary.of, List.countP_map, Function.comp_def]

namespace Auditor

variable (standard : Standard) (signature : String)

/-- An auditor under the standard profile. -/
abbrev plainly : Auditor :=
  ⟨standard, signature, .standard⟩

/-- The same auditor under the gas-family profile. -/
abbrev withGasFamily : Auditor :=
  ⟨standard, signature, .gasFamily⟩

/-- The verdict under the gas-family profile is the verdict under the standard profile with the gas
finding. -/
theorem judge_gasFamily (source : String) (target : Function) (callees : List Function) :
    (withGasFamily standard signature).judge source target callees =
      ((plainly standard signature).judge source target callees).map Implementation.withGas := by
  by_cases hbatch : standard = .erc1155BatchTransfer
  · subst hbatch
    simp only [judge, Standard.verify, BatchTransfer.verify_gasFamily]
    cases BatchTransfer.verify ⟨target, callees, source, .standard⟩ with
    | error fault => rfl
    | ok report =>
      have happly := BatchTransfer.applyCallees_gasFamily false report callees
      have hnames : (callees.map (·.name)).contains singleTransfer =
          callees.any (·.name == singleTransfer) := by
        rw [List.contains_eq_any_beq, List.any_map]
        simp [Function.comp_def, Bool.beq_comm]
      simp only [Except.map, bind, Except.bind, Standard.applyCallees, happly, Bool.false_or]
      rw [← hnames]
      rfl
  · -- No other check reads the profile, and no other report has a gas finding.
    cases standard with
    | erc1155BatchTransfer => exact absurd rfl hbatch
    | _ => rfl

/-- So are all verdicts, in order. -/
theorem judgeAll_gasFamily (source : String) (functions targets : List Function) :
    (withGasFamily standard signature).judgeAll source functions targets =
      ((plainly standard signature).judgeAll source functions targets).map
        (List.map Implementation.withGas) := by
  induction targets with
  | nil => rfl
  | cons target rest ih =>
    rw [judgeAll, judgeAll, ih]
    cases admit? functions target with
    | none => rfl
    | some callees =>
      simp only [judge_gasFamily]
      cases (plainly standard signature).judge source target callees with
      | error fault => rfl
      | ok first =>
        cases (plainly standard signature).judgeAll source functions rest <;> rfl

/-- The answer about a text under the gas-family profile: the same error, or the same verdicts with
their gas findings. -/
theorem analyze_gasFamily (source : String) :
    (withGasFamily standard signature).analyze source =
      ((plainly standard signature).analyze source).map
        (Except.map (List.map Implementation.withGas)) := by
  by_cases hnil : (plainly standard signature).matching source = []
  · have hnil' : (withGasFamily standard signature).matching source = [] := hnil
    rw [analyze_of_matching_eq_nil hnil, analyze_of_matching_eq_nil hnil']
    rfl
  · have hne' : (withGasFamily standard signature).matching source ≠ [] := hnil
    rw [analyze_of_matching_ne_nil hnil, analyze_of_matching_ne_nil hne', judgeAll_gasFamily]
    change Except.map answer (Except.map _ ((plainly standard signature).judgeAll source
      (declarations source) (((plainly standard signature).matching source).map _))) = _
    cases (plainly standard signature).judgeAll source (declarations source)
        (((plainly standard signature).matching source).map Function.withParameters) with
    | error fault => rfl
    | ok verdicts => cases verdicts <;> rfl

/-- Under the standard profile a verdict has no gas finding. The verdicts on batch transfers are the
ones that could have one. -/
theorem report_of_judge_eq_ok {standard : Standard} {signature source : String}
    {target : Function} {callees : List Function} {verdict : Implementation}
    (h : (plainly standard signature).judge source target callees = .ok verdict) :
    (standard = .erc1155BatchTransfer ∧
      ∃ r, verdict.requirements = .batchTransfer r ∧ r.gasFamily = none) ∨
    (standard ≠ .erc1155BatchTransfer ∧ ∀ r, verdict.requirements ≠ .batchTransfer r) := by
  by_cases hbatch : standard = .erc1155BatchTransfer
  · subst hbatch
    simp only [judge, Standard.verify] at h
    cases hverify : BatchTransfer.verify ⟨target, callees, source, .standard⟩ with
    | error fault =>
      rw [hverify] at h
      cases h
    | ok report =>
      rw [hverify] at h
      cases h
      refine .inl ⟨rfl, _, rfl, ?_⟩
      rw [BatchTransfer.gasFamily_applyCallees, BatchTransfer.gasFamily_of_verify_eq_ok hverify]
  · refine .inr ⟨hbatch, fun r hr => ?_⟩
    cases standard with
    | erc1155BatchTransfer => exact absurd rfl hbatch
    | _ =>
      cases h
      cases hr

theorem gasFamily?_of_judge_eq_ok {standard : Standard} {signature source : String}
    {target : Function} {callees : List Function} {verdict : Implementation}
    (h : (plainly standard signature).judge source target callees = .ok verdict) :
    verdict.requirements.gasFamily? = none := by
  rcases report_of_judge_eq_ok h with ⟨_, r, hr, hnone⟩ | ⟨_, hother⟩
  · rw [hr, Report.gasFamily?, hnone]
  · rw [Report.gasFamily?]
    exact hother

/-- Which gas finding a verdict is given: a batch transfer is told whether a callee is the single
transfer, and no other verdict has one. -/
theorem gasFamily?_withGas_of_judge_eq_ok {standard : Standard} {signature source : String}
    {target : Function} {callees : List Function} {verdict : Implementation}
    (h : (plainly standard signature).judge source target callees = .ok verdict) :
    verdict.withGas.requirements.gasFamily? =
      if standard = .erc1155BatchTransfer then
        some (verdict.internalCalls.contains singleTransfer)
      else none := by
  rcases report_of_judge_eq_ok h with ⟨hbatch, r, hr, _⟩ | ⟨hbatch, hother⟩
  · rw [if_pos hbatch, Implementation.withGas, hr]
    rfl
  · rw [if_neg hbatch, Implementation.withGas]
    cases hreport : verdict.requirements with
    | batchTransfer r => exact absurd hreport (hother r)
    | _ => rfl

end Auditor

/-! ## Files -/

theorem Report.hasGasFamilyError_eq (report : Report) :
    report.hasGasFamilyError = (report.gasFamily? == some true) := by
  cases report <;> rfl

/-- The result of a file with the findings that the gas-family profile adds. -/
def AuditedFile.withGas (audited : AuditedFile) : AuditedFile :=
  { audited with
    result := match audited.result with
      | .analyzed verdicts _ =>
        let noted := verdicts.map Implementation.withGas
        .analyzed noted
          (if noted.any (·.requirements.hasGasFamilyError) then some audited.file else none)
      | .failed error => .failed error }

/-- Two results of a file differ in the gas findings at most. -/
structure AuditedFile.SameBesidesGas (a b : AuditedFile) : Prop where
  file : a.file = b.file
  contentHash : a.contentHash = b.contentHash
  error : a.error? = b.error?
  implementations :
    List.Forall₂ Implementation.SameBesidesGas a.implementations b.implementations
  summary : a.summary? = b.summary?

theorem AuditedFile.implementations_withGas (audited : AuditedFile) :
    audited.withGas.implementations = audited.implementations.map Implementation.withGas := by
  unfold withGas implementations
  cases audited.result <;> rfl

theorem AuditedFile.sameBesidesGas_withGas (audited : AuditedFile) :
    audited.SameBesidesGas audited.withGas where
  file := rfl
  contentHash := rfl
  error := by
    unfold withGas error?
    cases audited.result <;> rfl
  implementations := by
    rw [implementations_withGas, List.forall₂_map_right_iff, List.forall₂_same]
    exact fun verdict _ => verdict.sameBesidesGas_withGas
  summary := by
    unfold withGas summary?
    cases audited.result with
    | analyzed verdicts gasErrorFile => simp only [FileSummary.of_map_withGas]
    | failed error => rfl

/-- The path stands in a result with gas findings exactly if one of them is positive. -/
theorem AuditedFile.gasErrorFile?_withGas (audited : AuditedFile) (path : String) :
    audited.withGas.gasErrorFile? = some path ↔ path = audited.file ∧
      ∃ verdict ∈ audited.withGas.implementations, verdict.requirements.gasFamily? = some true := by
  unfold withGas implementations gasErrorFile?
  cases audited.result with
  | failed error => simp
  | analyzed verdicts gasErrorFile =>
    simp only [Option.ite_none_right_eq_some, List.any_eq_true, Report.hasGasFamilyError_eq,
      beq_iff_eq, Option.some.injEq]
    rw [and_comm, eq_comm]

namespace Auditor

variable (standard : Standard) (signature : String)

/-- The gas-family profile adds its findings to the result of a file, and changes nothing else. -/
theorem analyzeFile_gasFamily (file : SourceFile) :
    (withGasFamily standard signature).analyzeFile file =
      ((plainly standard signature).analyzeFile file).map AuditedFile.withGas := by
  rw [analyzeFile, analyzeFile]
  cases file.text with
  | error cause => rfl
  | ok text =>
    simp only [analyze_gasFamily]
    cases (plainly standard signature).analyze text with
    | error fault => rfl
    | ok answer => cases answer <;> rfl

/-- Under the standard profile a file has no gas findings. -/
theorem gasErrorFile?_of_analyzeFile_eq_ok {standard : Standard} {signature : String}
    {file : SourceFile} {plain : AuditedFile}
    (h : (plainly standard signature).analyzeFile file = .ok plain) :
    plain.gasErrorFile? = none := by
  rcases result_of_analyzeFile_eq_ok h with ⟨error, hresult⟩ | ⟨text, verdicts, _, _, hresult⟩
  · rw [AuditedFile.gasErrorFile?, hresult]
  · have hnone : verdicts.any (·.requirements.hasGasFamilyError) = false := by
      rw [List.any_eq_false]
      intro verdict hverdict
      have hmem : verdict ∈ plain.implementations := by
        rwa [AuditedFile.implementations, hresult]
      obtain ⟨_, _, _, _, hjudge⟩ := exists_judge_of_mem_implementations h hmem
      simp [Report.hasGasFamilyError_eq, gasFamily?_of_judge_eq_ok hjudge]
    rw [AuditedFile.gasErrorFile?, hresult, hnone]
    rfl

/-- An audit of a file under the two profiles: both break off with the same fault, or their results
differ in the gas findings at most. Under the standard profile there are none. Under the gas-family
profile the verdict on a batch transfer tells whether one of the functions that its calls lead to is
the single transfer, other verdicts tell nothing, and the path of the file is noted if one of them
says that it is. -/
theorem analyzeFile_under_profiles (file : SourceFile) :
    (∃ fault, (plainly standard signature).analyzeFile file = .error fault ∧
      (withGasFamily standard signature).analyzeFile file = .error fault) ∨
    ∃ plain gas, (plainly standard signature).analyzeFile file = .ok plain ∧
      (withGasFamily standard signature).analyzeFile file = .ok gas ∧
      plain.SameBesidesGas gas ∧
      (∀ verdict ∈ plain.implementations, verdict.requirements.gasFamily? = none) ∧
      plain.gasErrorFile? = none ∧
      (∀ verdict ∈ gas.implementations, ∃ text target, file.text = .ok text ∧
        target ∈ (withGasFamily standard signature).matching text ∧
        verdict.IsOn (declarations text) target ∧
        verdict.requirements.gasFamily? =
          if standard = .erc1155BatchTransfer then
            some ((resolveCalls target.body (declarations text)).reached.any
              (·.name == "safeTransferFrom"))
          else none) ∧
      ∀ path, gas.gasErrorFile? = some path ↔ path = file.path ∧
        ∃ verdict ∈ gas.implementations, verdict.requirements.gasFamily? = some true := by
  have hgas := analyzeFile_gasFamily standard signature file
  cases hplain : (plainly standard signature).analyzeFile file with
  | error fault =>
    rw [hplain] at hgas
    exact .inl ⟨fault, rfl, hgas⟩
  | ok plain =>
    rw [hplain] at hgas
    refine .inr ⟨plain, plain.withGas, rfl, hgas, plain.sameBesidesGas_withGas, ?_,
      gasErrorFile?_of_analyzeFile_eq_ok hplain, ?_, ?_⟩
    · intro verdict hverdict
      obtain ⟨_, _, _, _, hjudge⟩ := exists_judge_of_mem_implementations hplain hverdict
      exact gasFamily?_of_judge_eq_ok hjudge
    · intro noted hnoted
      rw [AuditedFile.implementations_withGas] at hnoted
      obtain ⟨verdict, hverdict, rfl⟩ := List.mem_map.mp hnoted
      obtain ⟨text, target, htext, htarget, hjudge⟩ :=
        exists_judge_of_mem_implementations hplain hverdict
      have hon := isOn_of_judge_eq_ok hjudge
      refine ⟨text, target, htext, htarget, ⟨hon.1, hon.2, hon.3, hon.4, hon.5⟩, ?_⟩
      rw [gasFamily?_withGas_of_judge_eq_ok hjudge, hon.internalCalls]
      simp only [List.contains_eq_any_beq, List.any_map, Function.comp_def, Bool.beq_comm,
        singleTransfer]
    · intro path
      rw [AuditedFile.gasErrorFile?_withGas, file_of_analyzeFile_eq_ok hplain]

end Auditor

end TokenAudit
