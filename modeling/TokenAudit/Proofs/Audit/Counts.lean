import TokenAudit.Proofs.Audit.Isolation

/-!
# The counts of a batch

A batch is counted file by file, and a file verdict by verdict. The counts of the batch are those
over all its verdicts in one list. Which verdicts count is told by the checklist of the final
report; since no checklist is empty, a verdict that meets every requirement meets some requirement.

## Main definitions

* `BatchSummary.counted`: the counts of a batch, each over the whole batch at once.
* `Auditor.Judged`: a verdict is the one on a function of a text, with the final report.

## Main results

* `BatchSummary.of_eq_counted`: adding up the files gives the counts over the whole batch.
* `Implementation.someMet_of_allMet`: a full verdict is a partial one.
* `Auditor.audit_counts_verdicts`: the counts of every batch.
-/

namespace TokenAudit

/-! ## Adding up -/

/-- The counts of a batch, each over the whole batch at once. -/
def BatchSummary.counted (files : List AuditedFile) : BatchSummary where
  files := files.length
  analyzed := files.countP (·.error?.isNone)
  failed := files.countP (·.error?.isSome)
  implementations := (files.flatMap (·.implementations)).length
  full := (files.flatMap (·.implementations)).countP (·.allMet)
  partly := (files.flatMap (·.implementations)).countP (·.someMet)

/-- The counts of a file are those over its verdicts, and there are counts unless there is an
error. -/
theorem AuditedFile.summary?_eq (f : AuditedFile) :
    f.summary? =
      if f.error?.isNone then
        some ⟨f.implementations.length, f.implementations.countP (·.allMet),
          f.implementations.countP (·.someMet)⟩
      else none := by
  rw [summary?, error?, implementations]
  cases f.result <;> rfl

/-- A file with an error has no verdicts. -/
theorem AuditedFile.implementations_eq_nil {f : AuditedFile} (h : f.error?.isNone = false) :
    f.implementations = [] := by
  rw [error?] at h
  rw [implementations]
  cases hresult : f.result with
  | analyzed verdicts gas =>
    rw [hresult] at h
    cases h
  | failed error => rfl

namespace BatchSummary

/-- One more file adds what is counted over it alone. -/
theorem add_eq (s : BatchSummary) (f : AuditedFile) :
    s.add f =
      ⟨s.files, s.analyzed + (counted [f]).analyzed, s.failed + (counted [f]).failed,
        s.implementations + (counted [f]).implementations, s.full + (counted [f]).full,
        s.partly + (counted [f]).partly⟩ := by
  rw [add, f.summary?_eq]
  cases herror : f.error? with
  | none => simp [counted, herror]
  | some error =>
    have hnil : f.implementations = [] := f.implementations_eq_nil (by rw [herror]; rfl)
    simp [counted, herror, hnil]

/-- The counts over a batch are those over its first file and over the others. -/
theorem counted_cons (f : AuditedFile) (rest : List AuditedFile) :
    counted (f :: rest) =
      ⟨rest.length + 1, (counted [f]).analyzed + (counted rest).analyzed,
        (counted [f]).failed + (counted rest).failed,
        (counted [f]).implementations + (counted rest).implementations,
        (counted [f]).full + (counted rest).full,
        (counted [f]).partly + (counted rest).partly⟩ := by
  simp [counted, List.countP_cons, Nat.add_comm]

/-- More files add what is counted over them. -/
theorem foldl_add_eq (s : BatchSummary) (files : List AuditedFile) :
    files.foldl add s =
      ⟨s.files, s.analyzed + (counted files).analyzed, s.failed + (counted files).failed,
        s.implementations + (counted files).implementations, s.full + (counted files).full,
        s.partly + (counted files).partly⟩ := by
  induction files generalizing s with
  | nil => rfl
  | cons f rest ih =>
    rw [List.foldl_cons, ih, add_eq, counted_cons f rest]
    simp only [Nat.add_assoc]

/-- Adding up the files gives the counts over the whole batch. -/
theorem of_eq_counted (files : List AuditedFile) : of files = counted files := by
  rw [of, foldl_add_eq]
  simp [counted]

/-- Every file is counted as analyzed or as failed. -/
theorem analyzed_add_failed (files : List AuditedFile) :
    (counted files).analyzed + (counted files).failed = files.length := by
  rw [counted, List.length_eq_countP_add_countP (fun f : AuditedFile => f.error?.isNone)]
  simp only [Option.isNone_iff_eq_none, ← Option.isSome_iff_ne_none, Bool.decide_eq_true]

/-- If every analyzed file has a verdict, there are no fewer verdicts than analyzed files. -/
theorem analyzed_le_implementations {files : List AuditedFile}
    (h : ∀ f ∈ files, f.error? = none → f.implementations ≠ []) :
    (counted files).analyzed ≤ (counted files).implementations := by
  induction files with
  | nil => exact Nat.le_refl 0
  | cons f rest ih =>
    have hrest := ih fun g hg => h g (List.mem_cons_of_mem f hg)
    have hfirst : (counted [f]).analyzed ≤ (counted [f]).implementations := by
      cases herror : f.error? with
      | some error => simp [counted, herror]
      | none =>
        have hpos := List.length_pos_iff.mpr (h f List.mem_cons_self herror)
        simpa [counted, herror] using Nat.succ_le_of_lt hpos
    rw [counted_cons f rest]
    exact Nat.add_le_add hfirst hrest

end BatchSummary

/-! ## Flags -/

/-- No report has an empty checklist. -/
theorem Report.checklist_ne_nil (report : Report) : report.checklist ≠ [] := by
  cases report <;> exact List.cons_ne_nil _ _

namespace Implementation

/-- A verdict is full if every entry of its checklist is met. -/
theorem allMet_iff (verdict : Implementation) :
    verdict.allMet = true ↔ ∀ entry ∈ verdict.requirements.checklist, entry.2 = true :=
  List.all_eq_true

/-- A verdict is partial if some entry of its checklist is met. -/
theorem someMet_iff (verdict : Implementation) :
    verdict.someMet = true ↔ ∃ entry ∈ verdict.requirements.checklist, entry.2 = true :=
  List.any_eq_true

/-- A full verdict is a partial one. -/
theorem someMet_of_allMet {verdict : Implementation} (h : verdict.allMet = true) :
    verdict.someMet = true := by
  obtain ⟨entry, hentry⟩ :=
    List.exists_mem_of_ne_nil _ verdict.requirements.checklist_ne_nil
  exact verdict.someMet_iff.mpr ⟨entry, hentry, verdict.allMet_iff.mp h entry hentry⟩

end Implementation

namespace Auditor

/-- The verdict is on a function of the file's text that has the target's signature. Its report is
the one that the check of the function gives, with what the names of the callees add. -/
def Judged (auditor : Auditor) (file : SourceFile) (verdict : Implementation) : Prop :=
  ∃ text target found, file.text = .ok text ∧ target ∈ auditor.matching text ∧
    auditor.standard.verify (auditor.subject text target) = .ok found ∧
    verdict.requirements = auditor.standard.applyCallees auditor.profile found
      (auditor.subject text target).callees

/-- Every verdict on a file is on a function of its text. -/
theorem judged_of_analyzeFile_eq_ok {auditor : Auditor} {file : SourceFile} {audited : AuditedFile}
    (h : auditor.analyzeFile file = .ok audited) {verdict : Implementation}
    (hverdict : verdict ∈ audited.implementations) : auditor.Judged file verdict := by
  obtain ⟨text, target, htext, htarget, hjudge⟩ := exists_judge_of_mem_implementations h hverdict
  obtain ⟨found, hfound, hgiven⟩ := bind_eq_ok_iff.mp hjudge
  cases hgiven
  exact ⟨text, target, found, htext, htarget, hfound, rfl⟩

/-- Verdicts that an audit of a text answers with are not none. -/
theorem ne_nil_of_analyze_eq_ok {auditor : Auditor} {source : String}
    {verdicts : List Implementation} (h : auditor.analyze source = .ok (.ok verdicts)) :
    verdicts ≠ [] := by
  rintro rfl
  by_cases hnil : auditor.matching source = []
  · rw [analyze_of_matching_eq_nil hnil] at h
    cases h
  · rw [analyze_of_matching_ne_nil hnil] at h
    cases hall : auditor.judgeAll source (declarations source)
        ((auditor.matching source).map Function.withParameters) with
    | error fault =>
      rw [hall] at h
      cases h
    | ok given =>
      rw [hall] at h
      cases given <;> cases h

/-- A file without an error has verdicts. -/
theorem implementations_ne_nil_of_analyzeFile_eq_ok {auditor : Auditor} {file : SourceFile}
    {audited : AuditedFile} (h : auditor.analyzeFile file = .ok audited)
    (herror : audited.error? = none) : audited.implementations ≠ [] := by
  rcases result_of_analyzeFile_eq_ok h with
    ⟨error, hresult⟩ | ⟨text, verdicts, _, hanalyze, hresult⟩
  · rw [AuditedFile.error?, hresult] at herror
    cases herror
  · rw [AuditedFile.implementations, hresult]
    exact ne_nil_of_analyze_eq_ok hanalyze

/-- The counts of every batch. Its files are the given ones, each analyzed or failed, and the counts
of verdicts are those over all its verdicts. Each file's own counts are those over its verdicts, of
which an analyzed file has at least one. Each verdict has the report of a function of the file, with
what the names of the callees add, and its two flags say that all entries and that some entry of
that report's checklist are met; the first flag implies the second. So there are no more full
verdicts than partial ones, no more partial ones than verdicts, and no more analyzed files than
verdicts. -/
theorem audit_counts_verdicts {auditor : Auditor} {files : List SourceFile} {batch : AuditBatch}
    (h : auditor.audit files = .ok batch) :
    batch.summary = .counted batch.files ∧
    batch.summary.files = files.length ∧
    batch.summary.files = batch.summary.analyzed + batch.summary.failed ∧
    List.Forall₂ (fun file audited =>
        audited.summary? = (if audited.error?.isNone then
          some ⟨audited.implementations.length, audited.implementations.countP (·.allMet),
            audited.implementations.countP (·.someMet)⟩
        else none) ∧
        (audited.error? = none → audited.implementations ≠ []) ∧
        ∀ verdict ∈ audited.implementations, auditor.Judged file verdict ∧
          (verdict.allMet = true ↔ ∀ entry ∈ verdict.requirements.checklist, entry.2 = true) ∧
          (verdict.someMet = true ↔ ∃ entry ∈ verdict.requirements.checklist, entry.2 = true) ∧
          (verdict.allMet = true → verdict.someMet = true))
      files batch.files ∧
    batch.summary.full ≤ batch.summary.partly ∧
    batch.summary.partly ≤ batch.summary.implementations ∧
    batch.summary.analyzed ≤ batch.summary.implementations := by
  have heach := audit_eq_ok_iff.mp h
  have hover : batch.summary = .counted batch.files := BatchSummary.of_eq_counted batch.files
  have hverdicts : ∀ audited ∈ batch.files, audited.error? = none →
      audited.implementations ≠ [] :=
    ((List.forall₂_and_left _ _).mp (heach.flip.imp fun audited file hfile =>
      ⟨implementations_ne_nil_of_analyzeFile_eq_ok hfile, hfile⟩)).1
  refine ⟨hover, ?_, ?_, heach.imp fun file audited hfile => ⟨audited.summary?_eq,
    implementations_ne_nil_of_analyzeFile_eq_ok hfile, fun verdict hverdict =>
      ⟨judged_of_analyzeFile_eq_ok hfile hverdict, verdict.allMet_iff, verdict.someMet_iff,
        Implementation.someMet_of_allMet⟩⟩, ?_, ?_, ?_⟩
  · rw [hover]
    exact heach.length_eq.symm
  · rw [hover, BatchSummary.analyzed_add_failed]
    rfl
  · rw [hover]
    exact List.countP_mono_left fun verdict _ => Implementation.someMet_of_allMet
  · rw [hover]
    exact List.countP_le_length
  · rw [hover]
    exact BatchSummary.analyzed_le_implementations hverdicts

/-- A function that emits the event, and one that does so after a guard. -/
private def approvalFunctions : List Function :=
  [⟨"f", "", "", 0, 38, "function f() \x7bemit ApprovalForAll(1);\x7d", true, .empty⟩,
   ⟨"f", "", "", 38, 102,
     "function f() \x7brequire(sender!=operator);emit ApprovalForAll(1);\x7d", true, .empty⟩]

/-- The text of the two functions. -/
def approvalText : String :=
  String.ofList (approvalFunctions.flatMap fun f => f.body.toList)

/-- An audit of approvals by the name of `f`. -/
def approvalAuditor : Auditor :=
  ⟨.setApprovalForAll, "f()", .standard⟩

/-- The verdicts on the two functions. -/
private def approvalVerdicts : List Implementation :=
  [⟨"f", 0, 38, .empty, .approval ⟨false, false, true⟩, []⟩,
   ⟨"f", 38, 102, .empty, .approval ⟨true, true, true⟩, []⟩]

private theorem analyze_approvalText :
    approvalAuditor.analyze approvalText = .ok (.ok approvalVerdicts) := by
  have hdeclared : declarations approvalText = approvalFunctions := by
    -- The characters are at hand, so the text need not be evaluated for them.
    rw [declarations, approvalText, String.toList_ofList]
    decide +kernel
  have hmatching : approvalAuditor.matching approvalText = approvalFunctions := by
    rw [matching, hdeclared, List.filter_eq_self]
    intro f hf
    -- The declared signatures are the target's, so their hashes need no evaluation.
    have hsignature : ∀ f ∈ approvalFunctions, f.declaredSignature = "f()" := by
      decide +kernel
    rw [hsignature f hf]
    exact beq_self_eq_true _
  have hne : approvalAuditor.matching approvalText ≠ [] := by
    rw [hmatching]
    exact List.cons_ne_nil _ _
  have hjudged : approvalAuditor.judgeAll approvalText approvalFunctions
      (approvalFunctions.map Function.withParameters) = .ok approvalVerdicts := by
    decide +kernel
  rw [analyze_of_matching_ne_nil hne, hmatching, hdeclared, hjudged]
  rfl

/-- Of two files one is analyzed and one cannot be read. Both verdicts are partial, and one of them
is full. -/
theorem audit_counts_verdicts_mixed :
    ∃ batch, approvalAuditor.audit
        [⟨"mixed.sol", .ok approvalText⟩, ⟨"gone.sol", .error "gone"⟩] = .ok batch ∧
      batch.summary = ⟨2, 1, 1, 2, 1, 2⟩ := by
  have hfile : approvalAuditor.analyzeFile ⟨"mixed.sol", .ok approvalText⟩ =
      .ok ⟨"mixed.sol", .analyzed approvalVerdicts none,
        some (Hash.contentHash approvalText)⟩ := by
    rw [analyzeFile]
    simp only [analyze_approvalText]
    rfl
  have haudit : approvalAuditor.audit
      [⟨"mixed.sol", .ok approvalText⟩, ⟨"gone.sol", .error "gone"⟩] = .ok _ :=
    audit_eq_ok_iff.mpr (.cons hfile (.cons rfl .nil))
  refine ⟨_, haudit, ?_⟩
  rw [(audit_counts_verdicts haudit).1]
  decide +kernel

end Auditor

end TokenAudit
