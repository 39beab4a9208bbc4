import TokenAudit.Audit.Batch
import TokenAudit.Proofs.Audit.Targets
import TokenAudit.Proofs.BatchTransfer.EventPlace

/-!
# Files of a batch by themselves

Each file of a batch gets the result that it gets in a batch of its own, in order and under its own
path. The one thing that takes a whole batch down is a file that holds a scored batch transfer with
a unit that cannot be cut at the place of the event.

## Main definitions

* `Auditor.BreaksOff`: the audit of a file is broken off.

## Main results

* `audit_eq_error_iff`: a batch is lost exactly if the audit of one of its files is broken off.
* `audit_isolates_files`: that, and what a batch holds otherwise.
-/

namespace TokenAudit

/-- Only the check of a batch transfer can break off. -/
theorem Standard.verify_eq_error_iff (standard : Standard) (subject : Subject) :
    (∃ fault, standard.verify subject = .error fault) ↔
      standard = .erc1155BatchTransfer ∧ BatchTransfer.CutsOutside subject.units := by
  rw [← BatchTransfer.verify_eq_error_iff]
  cases standard with
  | erc1155BatchTransfer =>
    rw [verify, map_eq_error_iff]
    exact ⟨fun h => ⟨rfl, h⟩, fun h => h.2⟩
  | _ =>
    constructor
    · rintro ⟨fault, h⟩
      cases h
    · rintro ⟨h, _⟩
      cases h

namespace Auditor

/-- The audit of a file is broken off: its text has a scored batch transfer with a unit that cannot
be cut at the place of the event. -/
def BreaksOff (auditor : Auditor) (file : SourceFile) : Prop :=
  auditor.standard = .erc1155BatchTransfer ∧ ∃ text, file.text = .ok text ∧
    ∃ target ∈ auditor.matching text, Scored (declarations text) target ∧
      BatchTransfer.CutsOutside (auditor.subject text target).units

/-- The verdicts of a text break off exactly if the check of a scored target does. -/
theorem analyze_eq_error_iff (auditor : Auditor) (source : String) :
    (∃ fault, auditor.analyze source = .error fault) ↔
      ∃ target ∈ auditor.matching source, Scored (declarations source) target ∧
        ∃ fault, auditor.standard.verify (auditor.subject source target) = .error fault := by
  by_cases hnil : auditor.matching source = []
  · rw [analyze_of_matching_eq_nil hnil, hnil]
    constructor
    · rintro ⟨fault, h⟩
      cases h
    · rintro ⟨target, hmem, _⟩
      exact absurd hmem List.not_mem_nil
  · rw [analyze_of_matching_ne_nil hnil, map_eq_error_iff, judgeAll_eq_mapM,
      filter_scored_withParameters, mapM_eq_error_iff]
    constructor
    · rintro ⟨_, hmem, hfault⟩
      obtain ⟨target, htarget, rfl⟩ := List.mem_map.mp hmem
      obtain ⟨hmatching, hscored⟩ := List.mem_filter.mp htarget
      exact ⟨target, hmatching, by simpa using hscored, judge_eq_error_iff.mp hfault⟩
    · rintro ⟨target, hmatching, hscored, hfault⟩
      refine ⟨target.withParameters, List.mem_map_of_mem (List.mem_filter.mpr ?_),
        judge_eq_error_iff.mpr hfault⟩
      exact ⟨hmatching, by simpa using hscored⟩

/-- The audit of a file gives no result exactly if it is broken off. -/
theorem analyzeFile_eq_error_iff (auditor : Auditor) (file : SourceFile) :
    (∃ fault, auditor.analyzeFile file = .error fault) ↔ auditor.BreaksOff file := by
  have hverdicts : auditor.BreaksOff file ↔
      ∃ text, file.text = .ok text ∧ ∃ fault, auditor.analyze text = .error fault := by
    simp only [BreaksOff, analyze_eq_error_iff, Standard.verify_eq_error_iff]
    constructor
    · rintro ⟨hstandard, text, htext, target, hmem, hscored, hcut⟩
      exact ⟨text, htext, target, hmem, hscored, hstandard, hcut⟩
    · rintro ⟨text, htext, target, hmem, hscored, hstandard, hcut⟩
      exact ⟨hstandard, text, htext, target, hmem, hscored, hcut⟩
  rw [hverdicts, analyzeFile]
  cases htext : file.text with
  | error cause =>
    constructor
    · rintro ⟨fault, h⟩
      cases h
    · rintro ⟨text, h, _⟩
      cases h
  | ok text =>
    simp only [Except.ok.injEq, exists_eq_left']
    cases hanalyze : auditor.analyze text with
    | error fault => exact ⟨fun _ => ⟨fault, rfl⟩, fun _ => ⟨fault, rfl⟩⟩
    | ok answer =>
      cases answer <;> constructor <;> rintro ⟨fault, h⟩ <;> cases h

/-- A file keeps its path. -/
theorem file_of_analyzeFile_eq_ok {auditor : Auditor} {file : SourceFile} {audited : AuditedFile}
    (h : auditor.analyzeFile file = .ok audited) : audited.file = file.path := by
  rw [analyzeFile] at h
  cases htext : file.text with
  | error cause =>
    rw [htext] at h
    cases h
    rfl
  | ok text =>
    simp only [htext] at h
    cases hanalyze : auditor.analyze text with
    | error fault => rw [hanalyze] at h; cases h
    | ok answer =>
      rw [hanalyze] at h
      cases answer <;> cases h <;> rfl

/-- What the audit of a file gives: a reason why there are no verdicts, or verdicts on its text,
with its path if one of them has a gas finding. -/
theorem result_of_analyzeFile_eq_ok {auditor : Auditor} {file : SourceFile} {audited : AuditedFile}
    (h : auditor.analyzeFile file = .ok audited) :
    (∃ error, audited.result = .failed error) ∨
    ∃ text verdicts, file.text = .ok text ∧ auditor.analyze text = .ok (.ok verdicts) ∧
      audited.result = .analyzed verdicts
        (if verdicts.any (·.requirements.hasGasFamilyError) then some file.path else none) := by
  rw [analyzeFile] at h
  cases htext : file.text with
  | error cause =>
    rw [htext] at h
    cases h
    exact .inl ⟨_, rfl⟩
  | ok text =>
    simp only [htext] at h
    cases hanalyze : auditor.analyze text with
    | error fault => rw [hanalyze] at h; cases h
    | ok answer =>
      rw [hanalyze] at h
      cases answer with
      | error error =>
        cases h
        exact .inl ⟨_, rfl⟩
      | ok verdicts =>
        cases h
        exact .inr ⟨text, verdicts, rfl, hanalyze, rfl⟩

/-- Every verdict on a file is one on a function of its text. -/
theorem exists_judge_of_mem_implementations {auditor : Auditor} {file : SourceFile}
    {audited : AuditedFile} (h : auditor.analyzeFile file = .ok audited) {verdict : Implementation}
    (hverdict : verdict ∈ audited.implementations) :
    ∃ text target, file.text = .ok text ∧ target ∈ auditor.matching text ∧
      auditor.judge text target.withParameters
        (resolveCalls target.body (declarations text)).reached = .ok verdict := by
  rcases result_of_analyzeFile_eq_ok h with
    ⟨error, hresult⟩ | ⟨text, verdicts, htext, hanalyze, hresult⟩
  · rw [AuditedFile.implementations, hresult] at hverdict
    exact absurd hverdict List.not_mem_nil
  · have hmem : verdict ∈ verdicts := by
      rwa [AuditedFile.implementations, hresult] at hverdict
    obtain ⟨i, hi, rfl⟩ := List.mem_iff_getElem.mp hmem
    have heach := forall₂_judge_of_analyze_eq_ok hanalyze
    have hlength := heach.length_eq
    have hjudge := heach.get (i := i) (by omega) hi
    exact ⟨text, _, htext, List.mem_of_mem_filter (List.getElem_mem (by omega)), hjudge⟩

/-! ## Batches -/

theorem audit_eq_map (auditor : Auditor) (files : List SourceFile) :
    auditor.audit files = (files.mapM auditor.analyzeFile).map AuditBatch.mk := by
  rw [audit]
  cases files.mapM auditor.analyzeFile <;> rfl

/-- A batch holds what each of its files gives, in order. -/
theorem audit_eq_ok_iff {auditor : Auditor} {files : List SourceFile} {batch : AuditBatch} :
    auditor.audit files = .ok batch ↔
      List.Forall₂ (fun file audited => auditor.analyzeFile file = .ok audited)
        files batch.files := by
  rw [← mapM_eq_ok_iff, audit_eq_map]
  cases files.mapM auditor.analyzeFile with
  | error fault => constructor <;> intro h <;> cases h
  | ok outcomes =>
    constructor
    · intro h
      cases h
      rfl
    · intro h
      cases h
      rfl

/-- A batch is lost exactly if the audit of one of its files is broken off. -/
theorem audit_eq_error_iff (auditor : Auditor) (files : List SourceFile) :
    (∃ fault, auditor.audit files = .error fault) ↔ ∃ file ∈ files, auditor.BreaksOff file := by
  simp only [← analyzeFile_eq_error_iff]
  rw [← mapM_eq_error_iff, audit_eq_map, map_eq_error_iff]

/-- A file on its own gives a batch of its own result. -/
theorem audit_singleton {auditor : Auditor} {file : SourceFile} {audited : AuditedFile}
    (h : auditor.analyzeFile file = .ok audited) : auditor.audit [file] = .ok ⟨[audited]⟩ :=
  audit_eq_ok_iff.mpr (.cons h .nil)

/-- A batch is lost exactly if the audit of one of its files is broken off. Otherwise it holds one
result per file, in order and under the path of the file, and each is the result that the file gets
in a batch of its own. -/
theorem audit_isolates_files (auditor : Auditor) (files : List SourceFile) :
    ((∃ fault, auditor.audit files = .error fault) ↔
      ∃ file ∈ files, auditor.BreaksOff file) ∧
    ((∀ file ∈ files, ¬auditor.BreaksOff file) →
      ∃ batch, auditor.audit files = .ok batch ∧
        List.Forall₂ (fun file audited =>
          audited.file = file.path ∧ auditor.audit [file] = .ok ⟨[audited]⟩)
          files batch.files) := by
  refine ⟨audit_eq_error_iff auditor files, fun hwhole => ?_⟩
  cases haudit : auditor.audit files with
  | error fault =>
    obtain ⟨file, hmem, hbreaks⟩ := (audit_eq_error_iff auditor files).mp ⟨fault, haudit⟩
    exact absurd hbreaks (hwhole file hmem)
  | ok batch =>
    refine ⟨batch, rfl, (audit_eq_ok_iff.mp haudit).imp fun file audited h => ?_⟩
    exact ⟨file_of_analyzeFile_eq_ok h, audit_singleton h⟩

/-! ## A batch that is lost -/

/-- A function that calls two functions of one name: the first emits the event, and the second is
too short to be cut there. -/
def shortOverloadText : String :=
  "function f() \x7b a(); \x7d function a(uint x) \x7b emit TransferBatch(x); \x7d function a();"

/-- An audit of batch transfers by the name of `f`. -/
def transferAuditor : Auditor :=
  ⟨.erc1155BatchTransfer, "f()", .standard⟩

/-- The function under audit in the text. -/
private def shortOverloadTarget : Function :=
  ⟨"f", "", "", 0, 21, "function f() \x7b a(); \x7d", true, .empty⟩

/-- The audit of the text is broken off at the second of the overloads. -/
private theorem breaksOff_shortOverloadText :
    transferAuditor.BreaksOff ⟨"short.sol", .ok shortOverloadText⟩ := by
  -- The text is read once here; what follows is about the functions in it.
  have hdeclared : declarations shortOverloadText =
      [shortOverloadTarget,
       ⟨"a", "uint x", "", 22, 67, "function a(uint x) \x7b emit TransferBatch(x); \x7d", true,
         .empty⟩,
       ⟨"a", "", "", 68, 81, "function a();", false, .empty⟩] := by
    decide +kernel
  have hmatching : shortOverloadTarget ∈ transferAuditor.matching shortOverloadText := by
    rw [matching, hdeclared]
    refine List.mem_filter.mpr ⟨List.mem_cons_self, ?_⟩
    -- The two signatures are one text, so their hashes need no evaluation.
    have hsignature : shortOverloadTarget.declaredSignature = transferAuditor.signature := by
      decide +kernel
    rw [hsignature, beq_self_eq_true]
  have hscored : Scored (declarations shortOverloadText) shortOverloadTarget := by
    rw [hdeclared]
    decide +kernel
  have hunits : (transferAuditor.subject shortOverloadText shortOverloadTarget).units =
      [.main "function f() \x7b a(); \x7d",
       .internal "function a(uint x) \x7b emit TransferBatch(x); \x7d" "a",
       .internal "function a();" "a"] := by
    rw [subject, hdeclared]
    decide +kernel
  have hmain : BatchTransfer.event.find? (CodeUnit.main "function f() \x7b a(); \x7d").code =
      none := by
    rw [← Option.isNone_iff_eq_none]
    decide +kernel
  have hevent : (BatchTransfer.event.find? (CodeUnit.internal
      "function a(uint x) \x7b emit TransferBatch(x); \x7d" "a").code).map (·.start) =
      some 21 := by
    decide +kernel
  have hcuts : BatchTransfer.CutsOutside
      (transferAuditor.subject shortOverloadText shortOverloadTarget).units := by
    obtain ⟨found, hfound, hstart⟩ := Option.map_eq_some_iff.mp hevent
    rw [hunits, BatchTransfer.cutsOutside_cons_of_none hmain,
      BatchTransfer.cutsOutside_cons_of_some hfound, hstart]
    exact ⟨_, List.mem_cons_self, rfl, by decide +kernel⟩
  exact ⟨rfl, _, rfl, _, hmatching, hscored, hcuts⟩

/-- The audit of one file is broken off and takes the whole batch down, with the result that the
other file has on its own. -/
theorem audit_loses_unreadable_file :
    (∃ fault, transferAuditor.audit
      [⟨"short.sol", .ok shortOverloadText⟩, ⟨"gone.sol", .error "gone"⟩] = .error fault) ∧
    transferAuditor.audit [⟨"gone.sol", .error "gone"⟩] =
      .ok ⟨[⟨"gone.sol", .failed "Error processing file: gone", none⟩]⟩ := by
  refine ⟨(audit_eq_error_iff _ _).mpr ?_, audit_singleton rfl⟩
  exact ⟨_, List.mem_cons_self, breaksOff_shortOverloadText⟩

end Auditor

end TokenAudit
