import TokenAudit.Proofs.Audit.Targets
import TokenAudit.Proofs.Declarations.Moved
import TokenAudit.Proofs.Requirement.Bodies

/-!
# Text in front of a source

A licence, a pragma or a comment in front of a source is read by an audit too. It moves the
locations of all verdicts and changes nothing else, unless a declaration starts in it or a word runs
on from it into the source. Only the description of a domain is looked for in the whole text.

## Main definitions

* `Implementation.moved`: a verdict, some bytes further on.

## Main results

* `Standard.verify_congr`: what a check of requirements reads.
* `judgeAll_moved`: verdicts on functions that are moved are the verdicts moved.
* `analyze_append_preamble`: what text in front of a source changes.
-/

namespace TokenAudit

open Text Unicode

/-- The verdict on the same function in a text that starts `count` bytes further on. -/
def Implementation.moved (count : Nat) (verdict : Implementation) : Implementation :=
  { verdict with start := verdict.start + count, stop := verdict.stop + count }

/-! ## What a check reads -/

/-- Apart from descriptions of a domain, requirements are checked on the units of code, with the
names of the parameters and under the profile. Neither locations nor the rest of the source are
looked at. -/
theorem Standard.verify_congr {standard : Standard} (hstandard : standard ≠ .erc5267Domain)
    {s s' : Subject} (hunits : s.units = s'.units)
    (hparameters : s.target.parameters = s'.target.parameters) (hprofile : s.profile = s'.profile) :
    standard.verify s = standard.verify s' := by
  by_cases hbatch : standard = .erc1155BatchTransfer
  · -- The place of an event is kept with the label of its unit, so here the units have to be equal.
    subst hbatch
    have hparams := BatchTransfer.params_eq hparameters
    have hconditions : BatchTransfer.conditionFindings s = BatchTransfer.conditionFindings s' := by
      simp only [BatchTransfer.conditionFindings, hparams, hunits, hprofile]
    simp only [verify, BatchTransfer.verify, hparams, hconditions, hunits]
  · exact verify_eq_of_codes hbatch hstandard hparameters (congrArg codesOf hunits)

/-- Callees are known by their names and bodies, so moving them leaves the units as they are. -/
theorem Subject.units_map_moved (count : Nat) (target : Function) (callees : List Function)
    (source source' : String) (profile : Profile) :
    (Subject.mk (target.moved count) (callees.map (Function.moved count)) source' profile).units =
      (Subject.mk target callees source profile).units := by
  simp only [Subject.units, List.filter_map, List.map_map]
  rfl

/-- What the names of callees show does not hang on where they stand. -/
theorem Standard.applyCallees_map_moved (standard : Standard) (profile : Profile) (report : Report)
    (count : Nat) (callees : List Function) :
    standard.applyCallees profile report (callees.map (Function.moved count)) =
      standard.applyCallees profile report callees := by
  have hnames : ∀ r, BatchTransfer.applyCallees profile r (callees.map (Function.moved count)) =
      BatchTransfer.applyCallees profile r callees := by
    intro r
    rw [BatchTransfer.applyCallees, List.foldl_map]
    rfl
  cases standard <;> cases report <;> simp only [applyCallees, hnames]

namespace Auditor

/-! ## Verdicts -/

/-- A target that is moved is kept or passed over as before, with its callees moved. -/
theorem admit?_moved (count : Nat) (functions : List Function) (target : Function) :
    admit? (functions.map (Function.moved count)) (target.moved count) =
      (admit? functions target).map (List.map (Function.moved count)) := by
  have hassembly : ∀ reached : List Function,
      (reached.map (Function.moved count)).any (·.hasAssembly) = reached.any (·.hasAssembly) := by
    intro reached
    rw [List.any_map]
    rfl
  have hclosure : resolveCalls (target.moved count).body (functions.map (Function.moved count)) =
      (resolveCalls target.body functions).moved count :=
    resolveCalls_map_moved count target.body functions
  rw [admit?, admit?, hclosure, show (target.moved count).hasAssembly = target.hasAssembly from rfl]
  by_cases htarget : target.hasAssembly
  · rw [if_pos htarget, if_pos htarget, Option.map_none]
  · rw [if_neg htarget, if_neg htarget]
    cases resolveCalls target.body functions with
    | selfRecursive => rfl
    | noCalls => rfl
    | callees reached =>
      change (if (reached.map (Function.moved count)).any (·.hasAssembly) then none
          else some (reached.map (Function.moved count))) =
        (if reached.any (·.hasAssembly) then none else some reached).map
          (List.map (Function.moved count))
      rw [hassembly]
      cases reached.any (·.hasAssembly) <;> rfl

variable {auditor : Auditor}

/-- The verdict on a target that is moved is the verdict moved, whatever the source around it. -/
theorem judge_moved (hstandard : auditor.standard ≠ .erc5267Domain) (count : Nat)
    (source source' : String) (target : Function) (callees : List Function) :
    auditor.judge source' (target.moved count) (callees.map (Function.moved count)) =
      (auditor.judge source target callees).map (Implementation.moved count) := by
  have hverify := Standard.verify_congr hstandard
    (Subject.units_map_moved count target callees source source' auditor.profile) rfl rfl
  rw [judge, judge, hverify]
  cases auditor.standard.verify ⟨target, callees, source, auditor.profile⟩ with
  | error fault => rfl
  | ok found =>
    have hnames : (callees.map (Function.moved count)).map (·.name) = callees.map (·.name) := by
      rw [List.map_map]
      rfl
    simp only [bind, Except.bind, Standard.applyCallees_map_moved, hnames]
    rfl

/-- Verdicts on targets that are moved, among functions that are moved, are the verdicts moved. -/
theorem judgeAll_moved (hstandard : auditor.standard ≠ .erc5267Domain) (count : Nat)
    (source source' : String) (functions targets : List Function) :
    auditor.judgeAll source' (functions.map (Function.moved count))
        (targets.map (Function.moved count)) =
      (auditor.judgeAll source functions targets).map (List.map (Implementation.moved count)) := by
  induction targets with
  | nil => rfl
  | cons target rest ih =>
    rw [List.map_cons, judgeAll, judgeAll, admit?_moved, ih]
    cases admit? functions target with
    | none => rfl
    | some callees =>
      simp only [Option.map_some, judge_moved hstandard count source source']
      -- The first fault ends both runs at the same target.
      cases auditor.judge source target callees with
      | error fault => rfl
      | ok first => cases auditor.judgeAll source functions rest <;> rfl

/-! ## Audits -/

/-- A filler in front of a source moves the functions with the target's signature. -/
theorem matching_append_filler (auditor : Auditor) (filler : Filler) (source : String) :
    auditor.matching (String.ofList filler.chars ++ source) =
      (auditor.matching source).map (Function.moved (byteLength filler.chars)) := by
  rw [matching, declarations_append_filler, List.filter_map]
  rfl

/-- Text in front of a source in which no keyword of a declaration stands, and from whose end no
word runs on, moves every verdict by its length in bytes. The answer is the same otherwise: the same
verdicts with their parameters, requirements and callees in the same order, the same error, or the
same fault. -/
theorem analyze_append_preamble (auditor : Auditor) (hstandard : auditor.standard ≠ .erc5267Domain)
    (preamble source : String) (hfree : ¬"function".toList <:+: preamble.toList)
    (hends : ∀ c ∈ preamble.toList.getLast?, isWord c = false) :
    auditor.analyze (preamble ++ source) =
      (auditor.analyze source).map (Except.map (List.map
        (Implementation.moved preamble.utf8ByteSize))) := by
  let filler : Filler := ⟨preamble.toList, hfree, hends⟩
  have htext : preamble = String.ofList filler.chars := String.ofList_toList.symm
  have hlength : preamble.utf8ByteSize = byteLength filler.chars :=
    (byteLength_toList preamble).symm
  have hmatching := auditor.matching_append_filler filler source
  rw [hlength, htext]
  by_cases hnil : auditor.matching source = []
  · rw [hnil, List.map_nil] at hmatching
    rw [analyze_of_matching_eq_nil hmatching, analyze_of_matching_eq_nil hnil]
    rfl
  · have hne : auditor.matching (String.ofList filler.chars ++ source) ≠ [] := by
      rw [hmatching]
      exact fun h => hnil (List.map_eq_nil_iff.mp h)
    have htargets : ((auditor.matching source).map (Function.moved (byteLength filler.chars))).map
        Function.withParameters = ((auditor.matching source).map Function.withParameters).map
          (Function.moved (byteLength filler.chars)) := by
      rw [List.map_map, List.map_map]
      rfl
    rw [analyze_of_matching_ne_nil hne, analyze_of_matching_ne_nil hnil, hmatching, htargets,
      declarations_append_filler, judgeAll_moved hstandard _ source]
    cases auditor.judgeAll source (declarations source)
        ((auditor.matching source).map Function.withParameters) with
    | error fault => rfl
    | ok verdicts => cases verdicts <;> rfl

/-- An unclosed comment with a brace and a character of two bytes, before two functions. -/
theorem analyze_append_preamble_comment :
    (⟨.erc1155BatchTransfer, "f()", .gasFamily⟩ : Auditor).analyze
        ("/* © \x7b func\n" ++ overloadText) =
      ((⟨.erc1155BatchTransfer, "f()", .gasFamily⟩ : Auditor).analyze overloadText).map
        (Except.map (List.map (Implementation.moved 13))) :=
  analyze_append_preamble ⟨.erc1155BatchTransfer, "f()", .gasFamily⟩ (by decide)
    "/* © \x7b func\n" overloadText (by decide) (by simp; decide)

end Auditor

end TokenAudit
