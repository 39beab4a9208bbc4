import TokenAudit.Audit.Implementation
import TokenAudit.Proofs.Audit.Sequence
import TokenAudit.Proofs.Calls.Closure

/-!
# Which targets are scored

An audit of a source text passes over some of the functions that have the target's signature.
`Scored` says which ones it keeps, in terms of the calls between body texts alone; `admit?` decides
it, through the closure that `resolveCalls` computes.

## Main definitions

* `Auditor.matching`: the functions of a source text with the target's signature.
* `Scored`: the functions that an audit does not pass over.

## Main results

* `admit?_eq_some_iff`: `admit?` keeps exactly the scored functions, with their callees.
* `judgeAll_eq_mapM`: the verdicts are those on the scored targets, in order.
* `analyze_reports_scored`: what an audit of a source text gives.
-/

namespace TokenAudit

open Relation (ReflTransGen)

/-! ## Admission -/

/-- No text that the function's body leads to has inline assembly, and its calls of known functions
do not all lead back to itself. -/
def Scored (functions : List Function) (target : Function) : Prop :=
  (∀ text, ReflTransGen (Calls functions) target.body text →
    Assembly.occursIn text.toList = false) ∧
  ¬((∃ callee, Calls functions target.body callee) ∧
    ∀ callee, Calls functions target.body callee → callee = target.body)

namespace Auditor

/-- A target without assembly that is not self-recursive is kept unless a callee has assembly. -/
theorem admit?_of_ne_selfRecursive {functions : List Function} {target : Function}
    (hasm : target.hasAssembly = false)
    (hself : resolveCalls target.body functions ≠ .selfRecursive) :
    admit? functions target =
      if (resolveCalls target.body functions).reached.any (·.hasAssembly) then none
      else some (resolveCalls target.body functions).reached := by
  rw [admit?, hasm]
  cases hclosure : resolveCalls target.body functions with
  | selfRecursive => exact absurd hclosure hself
  | noCalls => rfl
  | callees reached => rfl

/-- A target is kept if neither it nor a function listed has assembly and it is not
self-recursive. -/
theorem admit?_eq_some_iff_closure {functions callees : List Function} {target : Function} :
    admit? functions target = some callees ↔
      (target.hasAssembly = false ∧
        ∀ f ∈ (resolveCalls target.body functions).reached, f.hasAssembly = false) ∧
      resolveCalls target.body functions ≠ .selfRecursive ∧
      callees = (resolveCalls target.body functions).reached := by
  constructor
  · intro h
    have hasm : target.hasAssembly = false := by
      by_contra hne
      rw [admit?, if_pos (by simpa using hne)] at h
      cases h
    have hself : resolveCalls target.body functions ≠ .selfRecursive := by
      intro hself
      rw [admit?, hasm, hself] at h
      cases h
    rw [admit?_of_ne_selfRecursive hasm hself] at h
    split at h
    · cases h
    · next hnone =>
      refine ⟨⟨hasm, fun f hf => ?_⟩, hself, (Option.some.inj h).symm⟩
      by_contra hf'
      exact hnone (List.any_eq_true.mpr ⟨f, hf, by simpa using hf'⟩)
  · rintro ⟨⟨hasm, hnone⟩, hself, rfl⟩
    rw [admit?_of_ne_selfRecursive hasm hself, if_neg]
    intro hany
    obtain ⟨f, hf, hfasm⟩ := List.any_eq_true.mp hany
    rw [hnone f hf] at hfasm
    cases hfasm

/-- The code of a target and of the functions listed is the code that its body leads to. -/
theorem hasAssembly_eq_false_iff {functions : List Function} {target : Function} :
    (target.hasAssembly = false ∧
      ∀ f ∈ (resolveCalls target.body functions).reached, f.hasAssembly = false) ↔
      ∀ text, ReflTransGen (Calls functions) target.body text →
        Assembly.occursIn text.toList = false := by
  constructor
  · rintro ⟨htarget, hcallees⟩ text hreach
    rcases (reaches_iff target.body functions text).mp hreach with rfl | ⟨f, hf, rfl⟩
    · exact htarget
    · exact hcallees f hf
  · intro hnone
    refine ⟨hnone _ .refl, fun f hf => hnone _ ?_⟩
    exact (reaches_iff target.body functions f.body).mpr (.inr ⟨f, hf, rfl⟩)

/-- `admit?` keeps exactly the scored functions, with the functions that they call. -/
theorem admit?_eq_some_iff {functions callees : List Function} {target : Function} :
    admit? functions target = some callees ↔
      Scored functions target ∧ callees = (resolveCalls target.body functions).reached := by
  rw [admit?_eq_some_iff_closure, Scored, ← hasAssembly_eq_false_iff, ne_eq,
    resolveCalls_eq_selfRecursive_iff, and_assoc (c := callees = _)]

/-- A function is scored exactly if `admit?` keeps it. -/
theorem scored_iff_isSome {functions : List Function} {target : Function} :
    Scored functions target ↔ (admit? functions target).isSome := by
  rw [Option.isSome_iff_exists]
  constructor
  · intro h
    exact ⟨_, admit?_eq_some_iff.mpr ⟨h, rfl⟩⟩
  · rintro ⟨callees, h⟩
    exact (admit?_eq_some_iff.mp h).1

/-- Whether a function is scored is decidable. -/
instance (functions : List Function) : DecidablePred (Scored functions) :=
  fun _ => decidable_of_iff _ scored_iff_isSome.symm

/-! ## Verdicts -/

end Auditor

/-- The function with the parameters that it declares. -/
def Function.withParameters (f : Function) : Function :=
  { f with parameters := parametersOf f.params }

namespace Auditor

/-- The functions of a source text whose signature has the hash of the target's, in order. -/
def matching (auditor : Auditor) (source : String) : List Function :=
  (declarations source).filter fun f =>
    Signature.hash f.declaredSignature == Signature.hash auditor.signature

/-- What the requirements of a target are checked against. -/
def subject (auditor : Auditor) (source : String) (target : Function) : Subject :=
  ⟨target.withParameters, (resolveCalls target.body (declarations source)).reached, source,
    auditor.profile⟩

/-- The verdicts on a list of targets are those on the scored ones, in order. -/
theorem judgeAll_eq_mapM (auditor : Auditor) (source : String)
    (functions targets : List Function) :
    auditor.judgeAll source functions targets =
      (targets.filter (Scored functions ·)).mapM fun target =>
        auditor.judge source target (resolveCalls target.body functions).reached := by
  induction targets with
  | nil => rfl
  | cons target rest ih =>
    rw [judgeAll, ih]
    by_cases h : Scored functions target
    · rw [admit?_eq_some_iff.mpr ⟨h, rfl⟩, List.filter_cons_of_pos (by simpa using h),
        List.mapM_cons]
    · have hnone : admit? functions target = none := by
        rw [← Option.not_isSome_iff_eq_none, ← scored_iff_isSome]
        exact h
      rw [hnone, List.filter_cons_of_neg (by simpa using h)]

/-- Whether a target is scored does not hang on its parameters. -/
theorem filter_scored_withParameters (functions targets : List Function) :
    (targets.map Function.withParameters).filter (Scored functions ·) =
      (targets.filter (Scored functions ·)).map Function.withParameters := by
  rw [List.filter_map]
  rfl

/-- What an audit answers when it has given its verdicts. -/
def answer : List Implementation → Except TargetError (List Implementation)
  | [] => .error .nothingValid
  | implementations => .ok implementations

/-- An audit of a text with targets answers with its verdicts on them. -/
theorem analyze_of_matching_ne_nil {auditor : Auditor} {source : String}
    (hne : auditor.matching source ≠ []) :
    auditor.analyze source =
      (auditor.judgeAll source (declarations source)
        ((auditor.matching source).map Function.withParameters)).map answer := by
  have htargets : matchSignature (declarations source) auditor.signature =
      (auditor.matching source).map Function.withParameters := rfl
  rw [analyze]
  simp only [htargets]
  split
  · next hnil => exact absurd (List.map_eq_nil_iff.mp hnil) hne
  · cases hall : auditor.judgeAll source (declarations source)
      ((auditor.matching source).map Function.withParameters) with
    | error fault => rfl
    | ok implementations => cases implementations <;> rfl

/-- An audit of a text without targets says so. -/
theorem analyze_of_matching_eq_nil {auditor : Auditor} {source : String}
    (hnil : auditor.matching source = []) :
    auditor.analyze source = .ok (.error (.notFound auditor.functionName)) := by
  have htargets : matchSignature (declarations source) auditor.signature = [] := by
    rw [show matchSignature (declarations source) auditor.signature =
      (auditor.matching source).map Function.withParameters from rfl, hnil, List.map_nil]
  rw [analyze]
  simp only [htargets]
  rfl

end Auditor

/-! ## What an audit answers -/

/-- The wording of an error tells which error it is. -/
theorem TargetError.message_injective {e e' : TargetError} (h : e.message = e'.message) :
    e = e' := by
  have hchars := congrArg String.toList h
  -- the two wordings differ in their last character
  have hlast : ∀ name : String, (name ++ " function not found").toList ≠
      ("No valid implementations found (possibly due to recursive calls or inline " ++
        "assembly)").toList := by
    intro name heq
    have := congrArg List.getLast? heq
    simp [String.toList_append] at this
  cases e with
  | notFound name =>
    cases e' with
    | notFound name' =>
      simp only [message, String.toList_append, List.append_cancel_right_eq] at hchars
      rw [String.toList_injective hchars]
    | nothingValid => exact absurd hchars (hlast name)
  | nothingValid =>
    cases e' with
    | notFound name' => exact absurd hchars.symm (hlast name')
    | nothingValid => rfl

/-- What a verdict repeats of its target: the name, the span, the parameters, and the names of the
functions that its calls lead to. -/
structure Implementation.IsOn (functions : List Function) (target : Function)
    (verdict : Implementation) : Prop where
  function : verdict.function = target.name
  start : verdict.start = target.start
  stop : verdict.stop = target.stop
  parameters : verdict.parameters = parametersOf target.params
  internalCalls :
    verdict.internalCalls = (resolveCalls target.body functions).reached.map (·.name)

namespace Auditor

/-- A verdict repeats its target. -/
theorem isOn_of_judge_eq_ok {auditor : Auditor} {source : String} {functions : List Function}
    {target : Function} {verdict : Implementation}
    (h : auditor.judge source target.withParameters (resolveCalls target.body functions).reached =
      .ok verdict) : verdict.IsOn functions target := by
  rw [judge] at h
  cases hfound : auditor.standard.verify ⟨target.withParameters,
      (resolveCalls target.body functions).reached, source, auditor.profile⟩ with
  | error fault =>
    rw [hfound] at h
    cases h
  | ok found =>
    rw [hfound] at h
    cases h
    exact ⟨rfl, rfl, rfl, rfl, rfl⟩

/-- Verdicts that an audit of a text answers with are those on the scored targets, in order. -/
theorem forall₂_judge_of_analyze_eq_ok {auditor : Auditor} {source : String}
    {verdicts : List Implementation} (h : auditor.analyze source = .ok (.ok verdicts)) :
    List.Forall₂ (fun target verdict => auditor.judge source target.withParameters
        (resolveCalls target.body (declarations source)).reached = .ok verdict)
      ((auditor.matching source).filter (Scored (declarations source) ·)) verdicts := by
  have hne : auditor.matching source ≠ [] := by
    intro hnil
    rw [analyze_of_matching_eq_nil hnil] at h
    cases h
  rw [analyze_of_matching_ne_nil hne] at h
  cases hall : auditor.judgeAll source (declarations source)
      ((auditor.matching source).map Function.withParameters) with
  | error fault =>
    rw [hall] at h
    cases h
  | ok given =>
    have hgiven : given = verdicts := by
      rw [hall] at h
      cases given with
      | nil => cases h
      | cons first later => exact Except.ok.inj (Except.ok.inj h)
    rw [judgeAll_eq_mapM, filter_scored_withParameters] at hall
    rw [← hgiven]
    exact List.forall₂_map_left_iff.mp (mapM_eq_ok_iff.mp hall)

/-- A target is judged unless the check of its requirements breaks off. -/
theorem judge_eq_error_iff {auditor : Auditor} {source : String} {target : Function} :
    (∃ fault, auditor.judge source target.withParameters
      (resolveCalls target.body (declarations source)).reached = .error fault) ↔
      ∃ fault, auditor.standard.verify (auditor.subject source target) = .error fault := by
  rw [judge, subject]
  exact map_eq_error_iff

/-- If no check of a scored target breaks off, there is one verdict on each, in order. -/
theorem exists_judgeAll_eq_ok {auditor : Auditor} {source : String}
    (hverify : ∀ target ∈ auditor.matching source, Scored (declarations source) target →
      ∃ found, auditor.standard.verify (auditor.subject source target) = .ok found) :
    ∃ verdicts, auditor.judgeAll source (declarations source)
        ((auditor.matching source).map Function.withParameters) = .ok verdicts ∧
      List.Forall₂ (Implementation.IsOn (declarations source))
        ((auditor.matching source).filter (Scored (declarations source) ·)) verdicts := by
  rw [judgeAll_eq_mapM, filter_scored_withParameters]
  cases hall : (((auditor.matching source).filter (Scored (declarations source) ·)).map
      Function.withParameters).mapM fun target =>
        auditor.judge source target (resolveCalls target.body (declarations source)).reached with
  | ok verdicts =>
    refine ⟨verdicts, rfl, ?_⟩
    have heach := List.forall₂_map_left_iff.mp (mapM_eq_ok_iff.mp hall)
    exact heach.imp fun _ _ h => isOn_of_judge_eq_ok h
  | error fault =>
    obtain ⟨_, hmem, hfault⟩ := mapM_eq_error_iff.mp ⟨fault, hall⟩
    obtain ⟨target, htarget, rfl⟩ := List.mem_map.mp hmem
    obtain ⟨hmatching, hscored⟩ := List.mem_filter.mp htarget
    obtain ⟨fault, hfault⟩ := judge_eq_error_iff.mp hfault
    obtain ⟨found, hfound⟩ := hverify target hmatching (by simpa using hscored)
    rw [hfault] at hfound
    cases hfound

/-- What an audit of a source text answers, when the check of no scored target breaks off: without
a target it says that the function is not there, without a scored target that nothing is valid, and
otherwise it gives exactly one verdict on each scored target, in the order of the text. -/
theorem analyze_reports_scored (auditor : Auditor) (source : String)
    (hverify : ∀ target ∈ auditor.matching source, Scored (declarations source) target →
      ∃ found, auditor.standard.verify (auditor.subject source target) = .ok found) :
    ((∃ e, auditor.analyze source = .ok (.error e) ∧
        e.message = auditor.functionName ++ " function not found") ↔
      auditor.matching source = []) ∧
    ((∃ e, auditor.analyze source = .ok (.error e) ∧ e.message =
        "No valid implementations found (possibly due to recursive calls or inline assembly)") ↔
      auditor.matching source ≠ [] ∧
        ∀ target ∈ auditor.matching source, ¬Scored (declarations source) target) ∧
    ((∃ target ∈ auditor.matching source, Scored (declarations source) target) →
      ∃ verdicts, auditor.analyze source = .ok (.ok verdicts) ∧
        List.Forall₂ (Implementation.IsOn (declarations source))
          ((auditor.matching source).filter (Scored (declarations source) ·)) verdicts) := by
  have hnotFound : ∀ e : TargetError, e.message = auditor.functionName ++ " function not found" →
      e = .notFound auditor.functionName := fun e he => TargetError.message_injective he
  have hnothing : ∀ e : TargetError, e.message =
      "No valid implementations found (possibly due to recursive calls or inline assembly)" →
      e = .nothingValid := fun e he => TargetError.message_injective he
  by_cases hnil : auditor.matching source = []
  · have hanalyze := analyze_of_matching_eq_nil hnil
    refine ⟨⟨fun _ => hnil, fun _ => ⟨_, hanalyze, rfl⟩⟩, ⟨?_, fun h => absurd hnil h.1⟩, ?_⟩
    · rintro ⟨e, he, hmessage⟩
      rw [hanalyze, hnothing e hmessage] at he
      cases he
    · rintro ⟨target, htarget, _⟩
      rw [hnil] at htarget
      exact absurd htarget List.not_mem_nil
  · obtain ⟨verdicts, hall, heach⟩ := exists_judgeAll_eq_ok hverify
    have hanalyze : auditor.analyze source = .ok (answer verdicts) := by
      rw [analyze_of_matching_ne_nil hnil, hall]
      rfl
    have hscored : verdicts = [] ↔
        ∀ target ∈ auditor.matching source, ¬Scored (declarations source) target := by
      rw [← List.length_eq_zero_iff, ← heach.length_eq, List.length_eq_zero_iff,
        List.filter_eq_nil_iff]
      simp only [decide_eq_true_eq]
    rw [hanalyze]
    cases verdicts with
    | nil =>
      refine ⟨⟨?_, fun h => absurd h hnil⟩,
        ⟨fun _ => ⟨hnil, hscored.mp rfl⟩, fun _ => ⟨_, rfl, rfl⟩⟩, ?_⟩
      · rintro ⟨e, he, hmessage⟩
        rw [hnotFound e hmessage] at he
        cases he
      · rintro ⟨target, htarget, h⟩
        exact absurd h (hscored.mp rfl target htarget)
    | cons first later =>
      refine ⟨⟨?_, fun h => absurd h hnil⟩, ⟨?_, ?_⟩, fun _ => ⟨_, rfl, heach⟩⟩
      · rintro ⟨e, he, _⟩
        cases he
      · rintro ⟨e, he, _⟩
        cases he
      · rintro ⟨_, hnone⟩
        cases hscored.mpr hnone

/-- Two functions of one signature, the first of which names both. -/
def overloadText : String :=
  "function f() \x7b f(); \x7d function f() \x7b\x7d"

/-- The first of two functions calls the second, so both are scored. -/
theorem analyze_reports_scored_overloads :
    ∃ verdicts, (⟨.setApprovalForAll, "f()", .standard⟩ : Auditor).analyze overloadText =
        .ok (.ok verdicts) ∧
      verdicts.map (fun verdict => (verdict.start, verdict.stop, verdict.internalCalls)) =
        [(0, 21, ["f"]), (22, 37, [])] := by
  have hdeclared : declarations overloadText =
      [⟨"f", "", "", 0, 21, "function f() \x7b f(); \x7d", true, .empty⟩,
       ⟨"f", "", "", 22, 37, "function f() \x7b\x7d", true, .empty⟩] := by
    decide +kernel
  have hmatching : (⟨.setApprovalForAll, "f()", .standard⟩ : Auditor).matching overloadText =
      declarations overloadText := by
    rw [matching, hdeclared, List.filter_eq_self]
    intro f hf
    have hsignature : f.declaredSignature = "f()" := by
      revert f
      decide +kernel
    rw [hsignature, beq_self_eq_true]
  have hscored : ∀ f ∈ declarations overloadText, Scored (declarations overloadText) f := by
    rw [hdeclared]
    decide +kernel
  have hsome : ∃ f ∈ declarations overloadText, Scored (declarations overloadText) f := by
    have hmem : ∃ f, f ∈ declarations overloadText := by
      rw [hdeclared]
      exact ⟨_, List.mem_cons_self⟩
    exact hmem.imp fun f hf => ⟨hf, hscored f hf⟩
  obtain ⟨verdicts, hanalyze, heach⟩ := (analyze_reports_scored
    ⟨.setApprovalForAll, "f()", .standard⟩ overloadText fun _ _ _ => ⟨_, rfl⟩).2.2
      (hmatching ▸ hsome)
  refine ⟨verdicts, hanalyze, ?_⟩
  rw [hmatching, List.filter_eq_self.mpr (by simpa using hscored), hdeclared] at heach
  obtain _ | ⟨hfirst, _ | ⟨hsecond, _ | _⟩⟩ := heach
  simp only [List.map_cons, List.map_nil, hfirst.start, hfirst.stop, hfirst.internalCalls,
    hsecond.start, hsecond.stop, hsecond.internalCalls]
  decide +kernel

end Auditor

end TokenAudit
