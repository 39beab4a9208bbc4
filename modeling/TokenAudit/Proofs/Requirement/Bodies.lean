import Mathlib.Data.List.Forall2
import Mathlib.Data.Set.Image
import TokenAudit.Proofs.BatchTransfer.Findings
import TokenAudit.Requirement.Report

/-!
# Verdicts and the bodies of callees

Which functions a target calls matters to the verdict on it through their body texts. This module
proves that, apart from the place of the event of a batch transfer and what depends on it, the order
of the callees, their names and their repetitions do not matter, and that more bodies can only meet
more requirements. Descriptions of a domain are left out: they are looked for in the whole source.

## Main definitions

* `otherBodies`: the body texts of the callees that are not the target's own.
* `Checklist.Below`: every requirement met in one checklist is met in another.

## Main results

* `Standard.verify_eq_of_codes`, `Standard.checklist_mono`: the six checks that read nothing but the
  code of the units.
* `BatchTransfer.unitFindings_mono`, `BatchTransfer.zeroAddress_eq_of_codes`: the same for what is
  found about a batch transfer.
* `verify_depends_on_bodies`: both, in terms of the bodies.
-/

namespace TokenAudit

open Pattern

/-! ## Bodies -/

/-- The body texts of the callees, the target's own left out. -/
def otherBodies (target : Function) (callees : List Function) : Set String :=
  {body | body ≠ target.body ∧ ∃ f ∈ callees, f.body = body}

/-- The texts of the units are the target's body and the other bodies. -/
theorem codesOf_units (subject : Subject) :
    codesOf subject.units = String.toList ''
      insert subject.target.body (otherBodies subject.target subject.callees) := by
  ext code
  constructor
  · rintro ⟨unit, hunit, rfl⟩
    rcases List.mem_cons.mp hunit with rfl | hcallee
    · exact ⟨_, Set.mem_insert _ _, rfl⟩
    · obtain ⟨f, hf, rfl⟩ := List.mem_map.mp hcallee
      obtain ⟨hmem, hne⟩ := List.mem_filter.mp hf
      exact ⟨f.body, .inr ⟨by simpa using hne, f, hmem, rfl⟩, rfl⟩
  · rintro ⟨body, rfl | ⟨hne, f, hf, rfl⟩, rfl⟩
    · exact ⟨_, List.mem_cons_self, rfl⟩
    · refine ⟨.internal f.body f.name, List.mem_cons_of_mem _ (List.mem_map.mpr ?_), rfl⟩
      exact ⟨f, List.mem_filter.mpr ⟨hf, by simpa using hne⟩, rfl⟩

/-! ## Checklists -/

/-- The two checklists have the same requirements in the same order, and every one that is met in
the first is met in the second. -/
def Checklist.Below (list list' : Checklist) : Prop :=
  List.Forall₂ (fun entry entry' => entry.1 = entry'.1 ∧ (entry.2 = true → entry'.2 = true))
    list list'

namespace Checklist.Below

theorem nil : Below [] [] :=
  List.Forall₂.nil

/-- One more requirement, under the same name. -/
theorem cons {name : String} {met met' : Bool} {rest rest' : Checklist}
    (hmet : met = true → met' = true) (hrest : Below rest rest') :
    Below ((name, met) :: rest) ((name, met') :: rest') :=
  List.Forall₂.cons ⟨rfl, hmet⟩ hrest

/-- Checklists that are below each other are the same. -/
theorem antisymm {list list' : Checklist} (h : Below list list') (h' : Below list' list) :
    list = list' := by
  induction h with
  | nil => rfl
  | @cons entry entry' rest rest' hentry _ ih =>
    obtain ⟨⟨_, hback⟩, hrest⟩ := List.forall₂_cons.mp h'
    rw [ih hrest, Prod.ext hentry.1 (Bool.eq_iff_iff.mpr ⟨hentry.2, hback⟩)]

/-- What is looked up and found to be met is met in the second checklist. -/
theorem lookup {list list' : Checklist} (h : Below list list') {name : String}
    (hmet : list.lookup name = some true) : list'.lookup name = some true := by
  induction h with
  | nil => cases hmet
  | @cons entry entry' rest rest' hentry _ ih =>
    obtain ⟨first, met⟩ := entry
    obtain ⟨_, met'⟩ := entry'
    obtain ⟨rfl, himp⟩ := hentry
    rw [List.lookup_cons] at hmet ⊢
    cases hname : name == first with
    | true =>
      rw [hname] at hmet
      exact congrArg some (himp (Option.some.inj hmet))
    | false =>
      rw [hname] at hmet
      exact ih hmet

end Checklist.Below

/-! ## Checks that read the code only -/

/-- Either finding is enough. -/
theorem or_mono {a b a' b' : Bool} (ha : a = true → a' = true) (hb : b = true → b' = true)
    (h : (a || b) = true) : (a' || b') = true := by
  rw [Bool.or_eq_true] at h ⊢
  exact h.imp ha hb

variable {s t : Subject}

/-- Subjects with the same parameters and the same texts get the same report. -/
theorem Standard.verify_eq_of_codes {standard : Standard}
    (hbatch : standard ≠ .erc1155BatchTransfer) (hdomain : standard ≠ .erc5267Domain)
    (hparameters : s.target.parameters = t.target.parameters)
    (hcodes : codesOf s.units = codesOf t.units) : standard.verify s = standard.verify t := by
  have hparam : ∀ i, s.param? i = t.param? i := by
    intro i
    rw [Subject.param?, Subject.param?, hparameters]
  have hin : ∀ p, s.inUnit p = t.inUnit p := fun p => any_code_congr hcodes p.isMatch
  have hany : ∀ patterns, s.anyUnit patterns = t.anyUnit patterns :=
    fun patterns => any_code_congr hcodes (anyMatch patterns)
  have hcode : ∀ test : List Char → Bool,
      (s.units.any fun unit => test unit.code) = t.units.any fun unit => test unit.code :=
    any_code_congr hcodes
  have hcondition : ∀ p : Pattern,
      ((Condition.harvest s.units).any fun c => p.isMatch c.content) =
        (Condition.harvest t.units).any fun c => p.isMatch c.content :=
    fun p => any_harvest_congr hcodes fun _ content => p.isMatch content
  cases standard with
  | erc1155BatchTransfer => exact absurd rfl hbatch
  | erc3643BatchTransfer => simp only [verify, Erc3643.verifyTransfer, hin]
  | erc3643BatchForcedTransfer =>
    have htogether := hcode fun code =>
      Erc3643.freeBalanceBranch.isMatch code && Erc3643.forcedUnfreeze.isMatch code
    simp only [verify, Erc3643.verifyForcedTransfer, hin, htogether]
  | erc3643BatchMint => simp only [verify, Erc3643.verifyMint, hin]
  | erc3643BatchBurn => simp only [verify, Erc3643.verifyBurn, hin]
  | setApprovalForAll =>
    have hoperator : Approval.operatorName s = Approval.operatorName t := by
      simp only [Approval.operatorName, hparam, hparameters]
    have hself := any_harvest_congr hcodes fun _ content => anyMatch
      (Approval.ownerForms.flatMap (Approval.selfComparisons (Approval.operatorName t))) content
    have hguarded := hcode fun code => Approval.guardedEvent ⟨code, .main⟩
    have hemitted := hcode fun code => Approval.event.isMatch code
    simp only [verify, Approval.verify, hoperator, hself, hemitted]
    rw [show s.units.any Approval.guardedEvent = t.units.any Approval.guardedEvent from hguarded]
  | erc2612Permit =>
    have hdeadline := any_harvest_congr hcodes fun kind content =>
      anyMatch (Permit.deadlineRules ((t.param? 3).getD "deadline") kind) content
    simp only [verify, Permit.verify, hparam, hin, hany, hcondition, hdeadline]
  | erc5267Domain => exact absurd rfl hdomain

/-- With the same parameters and more texts, every requirement that was met is met. -/
theorem Standard.checklist_mono {standard : Standard}
    (hbatch : standard ≠ .erc1155BatchTransfer) (hdomain : standard ≠ .erc5267Domain)
    (hparameters : s.target.parameters = t.target.parameters)
    (hcodes : codesOf s.units ⊆ codesOf t.units) :
    ∃ report report', standard.verify s = .ok report ∧ standard.verify t = .ok report' ∧
      report.checklist.Below report'.checklist := by
  have hparam : ∀ i, s.param? i = t.param? i := by
    intro i
    rw [Subject.param?, Subject.param?, hparameters]
  have hin : ∀ p, s.inUnit p = true → t.inUnit p = true :=
    fun p => any_code_mono hcodes p.isMatch
  have hany : ∀ patterns, s.anyUnit patterns = true → t.anyUnit patterns = true :=
    fun patterns => any_code_mono hcodes (anyMatch patterns)
  have hcondition : ∀ p : Pattern,
      ((Condition.harvest s.units).any fun c => p.isMatch c.content) = true →
        ((Condition.harvest t.units).any fun c => p.isMatch c.content) = true :=
    fun p => any_harvest_mono hcodes fun _ content => p.isMatch content
  cases standard with
  | erc1155BatchTransfer => exact absurd rfl hbatch
  | erc3643BatchTransfer =>
    refine ⟨_, _, rfl, rfl, ?_⟩
    exact .cons (hin _) <| .cons (hin _) <| .cons (hin _) <| .cons (hin _) <| .cons (hin _) <|
      .cons (hin _) <| .cons (hin _) .nil
  | erc3643BatchForcedTransfer =>
    have htogether := any_code_mono hcodes fun code =>
      Erc3643.freeBalanceBranch.isMatch code && Erc3643.forcedUnfreeze.isMatch code
    refine ⟨_, _, rfl, rfl, ?_⟩
    exact .cons (hin _) <| .cons (hin _) <| .cons (hin _) <| .cons htogether <|
      .cons (hin _) <| .cons (hin _) <| .cons (hin _) <| .cons (hin _) <| .cons (hin _) .nil
  | erc3643BatchMint =>
    refine ⟨_, _, rfl, rfl, ?_⟩
    exact .cons (hin _) <| .cons (hin _) <| .cons (hin _) <| .cons (hin _) <| .cons (hin _) <|
      .cons (hin _) .nil
  | erc3643BatchBurn =>
    refine ⟨_, _, rfl, rfl, ?_⟩
    exact .cons (hin _) <| .cons (hin _) <| .cons (hin _) <| .cons (hin _) <| .cons (hin _) <|
      .cons (hin _) <| .cons (hin _) <| .cons (hin _) .nil
  | setApprovalForAll =>
    have hoperator : Approval.operatorName s = Approval.operatorName t := by
      simp only [Approval.operatorName, hparam, hparameters]
    have hself := any_harvest_mono hcodes fun _ content => anyMatch
      (Approval.ownerForms.flatMap (Approval.selfComparisons (Approval.operatorName t))) content
    have hguarded := any_code_mono hcodes fun code => Approval.guardedEvent ⟨code, .main⟩
    have hemitted := any_code_mono hcodes fun code => Approval.event.isMatch code
    refine ⟨_, _, rfl, rfl, ?_⟩
    simp only [Approval.verify, hoperator]
    exact .cons hself <| .cons hguarded <| .cons hemitted .nil
  | erc2612Permit =>
    have hdeadline := any_harvest_mono hcodes fun kind content =>
      anyMatch (Permit.deadlineRules ((t.param? 3).getD "deadline") kind) content
    refine ⟨_, _, rfl, rfl, ?_⟩
    simp only [Permit.verify, hparam]
    exact .cons hdeadline <| .cons (hcondition _) <| .cons (or_mono (hcondition _) (hin _)) <|
      .cons (or_mono (hcondition _) (hin _)) <| .cons (hin _) <| .cons (hin _) <|
      .cons (hany _) <| .cons (hany _) .nil
  | erc5267Domain => exact absurd rfl hdomain

/-! ## Batch transfers -/

/-- The requirements on a batch transfer that a condition or a unit can meet by itself and that no
other unit can take back. -/
def unitRequirements : List String :=
  ["sender_check", "approval_check", "length_matching_check", "transfer_batch_event_found",
    "to_isContract_check"]

/-- The verdicts on these requirements. -/
def BatchTransferReport.unitFindings (r : BatchTransferReport) : Checklist :=
  [("sender_check", r.sender), ("approval_check", r.approval),
    ("length_matching_check", r.lengthMatching), ("transfer_batch_event_found", r.eventFound),
    ("to_isContract_check", r.toIsContract)]

theorem Report.get?_of_mem_unitRequirements {name : String} (h : name ∈ unitRequirements)
    (r : BatchTransferReport) :
    (Report.batchTransfer r).get? name = r.unitFindings.lookup name := by
  simp only [unitRequirements, List.mem_cons, List.not_mem_nil, or_false] at h
  rcases h with rfl | rfl | rfl | rfl | rfl <;> rfl

namespace BatchTransfer

/-- More patterns match what fewer match. -/
theorem anyMatch_mono {patterns patterns' : List Pattern} (h : patterns ⊆ patterns')
    {text : List Char} (hany : anyMatch patterns text = true) : anyMatch patterns' text = true := by
  obtain ⟨p, hp, hmatch⟩ := List.any_eq_true.mp hany
  exact List.any_eq_true.mpr ⟨p, h hp, hmatch⟩

/-- With more names for the length, a condition shows no less. -/
theorem showsLength_mono {params : Params} {aliases aliases' : List String}
    (h : aliases ⊆ aliases') {c : Condition} (hshows : showsLength params aliases c = true) :
    showsLength params aliases' c = true := by
  rw [showsLength] at hshows ⊢
  split at hshows
  · refine anyMatch_mono ?_ hshows
    -- The rules on the lengths themselves come first in both lists.
    refine List.append_subset.mpr ⟨List.subset_append_left _ _, fun p hp => ?_⟩
    obtain ⟨name, hname, hp⟩ := List.mem_flatMap.mp hp
    exact List.mem_append_right _ (List.mem_flatMap.mpr ⟨name, h hname, hp⟩)
  · cases hshows

variable (hparameters : s.target.parameters = t.target.parameters)

include hparameters

theorem params_eq : Params.of s = Params.of t := by
  simp only [Params.of, Subject.param?, hparameters]

/-- Names bound to the length of the ids are bound if there are more texts. -/
theorem lengthAliases_subset (hcodes : codesOf s.units ⊆ codesOf t.units) :
    lengthAliases s ⊆ lengthAliases t := by
  rw [lengthAliases, lengthAliases, params_eq hparameters]
  cases (Params.of t).ids with
  | none => exact List.Subset.refl _
  | some ids => exact lengthNames_subset hcodes ids

/-- Lengths that are compared are compared if there are more texts: names bound in one unit are
looked for in the conditions of all. -/
theorem lengthMatching_mono (hcodes : codesOf s.units ⊆ codesOf t.units) (params : Params)
    (hany : (Condition.harvest s.units).any (showsLength params (lengthAliases s)) = true) :
    (Condition.harvest t.units).any (showsLength params (lengthAliases t)) = true := by
  have hmore := any_harvest_mono hcodes
    (fun kind content => showsLength params (lengthAliases s) ⟨content, .main, kind⟩) hany
  obtain ⟨c, hc, hshows⟩ := List.any_eq_true.mp hmore
  refine List.any_eq_true.mpr ⟨c, hc, ?_⟩
  exact showsLength_mono (lengthAliases_subset hparameters hcodes) hshows

/-- With more texts, what was found about the caller, the lengths, the event and the recipient's
code is found, if neither check is broken off. -/
theorem unitFindings_mono (hcodes : codesOf s.units ⊆ codesOf t.units)
    {r r' : BatchTransferReport} (hr : verify s = .ok r) (hr' : verify t = .ok r') :
    r.unitFindings.Below r'.unitFindings := by
  have hparams := params_eq hparameters
  have hsender := any_harvest_mono hcodes fun kind content =>
    showsSender (Params.of t) ⟨content, .main, kind⟩
  have happroval := any_harvest_mono hcodes fun kind content =>
    showsApproval (Params.of t) ⟨content, .main, kind⟩
  have hlength := lengthMatching_mono hparameters hcodes (Params.of t)
  obtain ⟨_, _, rfl⟩ := verify_eq_ok hr
  obtain ⟨_, _, rfl⟩ := verify_eq_ok hr'
  simp only [BatchTransferReport.unitFindings, conditionFindings_eq, hparams]
  exact .cons hsender <| .cons happroval <| .cons hlength <|
    .cons (any_code_mono hcodes event.isMatch) <|
    .cons (any_code_mono hcodes (contractIn (Params.of t).recipient)) .nil

/-- A guard against the zero address counts unless some unit tells the code apart, so only the same
texts give the same finding. -/
theorem zeroAddress_eq_of_codes (hcodes : codesOf s.units = codesOf t.units)
    {r r' : BatchTransferReport} (hr : verify s = .ok r) (hr' : verify t = .ok r') :
    r.zeroAddress = r'.zeroAddress := by
  have hparams := params_eq hparameters
  have hnonzero := any_harvest_congr hcodes fun kind content =>
    showsNonzero (Params.of t) ⟨content, .main, kind⟩
  have hternary := any_code_congr hcodes (ternaryIn (Params.of t).recipient)
  obtain ⟨_, _, rfl⟩ := verify_eq_ok hr
  obtain ⟨_, _, rfl⟩ := verify_eq_ok hr'
  simp only [conditionFindings_eq, hparams, hternary]
  exact congrArg (· && _) hnonzero

end BatchTransfer

/-! ## Bodies decide -/

/-- A batch transfer that is checked has a report on batch transfers. -/
theorem Standard.verify_batchTransfer_eq_ok {subject : Subject} {report : Report}
    (h : Standard.erc1155BatchTransfer.verify subject = .ok report) :
    ∃ r, report = .batchTransfer r ∧ BatchTransfer.verify subject = .ok r := by
  rw [Standard.verify] at h
  cases hverify : BatchTransfer.verify subject with
  | error fault =>
    rw [hverify] at h
    cases h
  | ok r =>
    rw [hverify] at h
    cases h
    exact ⟨r, rfl, rfl⟩

/-- The requirements of one target, under the same profile, checked with two lists of callees. If
the bodies other than the target's are the same, six of the checks give the same report, and the
reports on a batch transfer agree on what does not depend on the place of the event. If the second
list has more bodies, requirements that are met under the first are met under the second; a guard
against the zero address is left out, because a further body can take it back. -/
theorem verify_depends_on_bodies (target : Function) (source : String) (profile : Profile)
    (callees callees' : List Function) :
    (otherBodies target callees = otherBodies target callees' →
      (∀ standard : Standard, standard ≠ .erc1155BatchTransfer → standard ≠ .erc5267Domain →
        standard.verify ⟨target, callees, source, profile⟩ =
          standard.verify ⟨target, callees', source, profile⟩) ∧
      (∀ report report',
        Standard.erc1155BatchTransfer.verify ⟨target, callees, source, profile⟩ = .ok report →
        Standard.erc1155BatchTransfer.verify ⟨target, callees', source, profile⟩ = .ok report' →
        ∀ name ∈ "zero_address_check" :: unitRequirements,
          report.get? name = report'.get? name)) ∧
    (otherBodies target callees ⊆ otherBodies target callees' →
      (∀ standard : Standard, standard ≠ .erc1155BatchTransfer → standard ≠ .erc5267Domain →
        ∃ report report', standard.verify ⟨target, callees, source, profile⟩ = .ok report ∧
          standard.verify ⟨target, callees', source, profile⟩ = .ok report' ∧
          ∀ name, report.get? name = some true → report'.get? name = some true) ∧
      (∀ report report',
        Standard.erc1155BatchTransfer.verify ⟨target, callees, source, profile⟩ = .ok report →
        Standard.erc1155BatchTransfer.verify ⟨target, callees', source, profile⟩ = .ok report' →
        ∀ name ∈ unitRequirements,
          report.get? name = some true → report'.get? name = some true)) := by
  let s : Subject := ⟨target, callees, source, profile⟩
  let t : Subject := ⟨target, callees', source, profile⟩
  have hsubset : otherBodies target callees ⊆ otherBodies target callees' →
      codesOf s.units ⊆ codesOf t.units := by
    intro h
    rw [codesOf_units, codesOf_units]
    exact Set.image_mono (Set.insert_subset_insert h)
  have hequal : otherBodies target callees = otherBodies target callees' →
      codesOf s.units = codesOf t.units := by
    intro h
    rw [codesOf_units, codesOf_units]
    exact congrArg (fun bodies => String.toList '' insert target.body bodies) h
  refine ⟨fun hbodies => ⟨?_, ?_⟩, fun hbodies => ⟨?_, ?_⟩⟩
  · intro standard hbatch hdomain
    exact Standard.verify_eq_of_codes (s := s) (t := t) hbatch hdomain rfl (hequal hbodies)
  · intro report report' hreport hreport' name hname
    obtain ⟨r, rfl, hr⟩ := Standard.verify_batchTransfer_eq_ok hreport
    obtain ⟨r', rfl, hr'⟩ := Standard.verify_batchTransfer_eq_ok hreport'
    have hcodes := hequal hbodies
    have hbelow := BatchTransfer.unitFindings_mono (s := s) (t := t) rfl hcodes.subset hr hr'
    have habove := BatchTransfer.unitFindings_mono (s := t) (t := s) rfl hcodes.superset hr' hr
    rcases List.mem_cons.mp hname with rfl | hname
    · exact congrArg some
        (BatchTransfer.zeroAddress_eq_of_codes (s := s) (t := t) rfl hcodes hr hr')
    · rw [Report.get?_of_mem_unitRequirements hname, Report.get?_of_mem_unitRequirements hname,
        hbelow.antisymm habove]
  · intro standard hbatch hdomain
    obtain ⟨report, report', hreport, hreport', hbelow⟩ :=
      Standard.checklist_mono (s := s) (t := t) hbatch hdomain rfl (hsubset hbodies)
    exact ⟨report, report', hreport, hreport', fun name => hbelow.lookup⟩
  · intro report report' hreport hreport' name hname hmet
    obtain ⟨r, rfl, hr⟩ := Standard.verify_batchTransfer_eq_ok hreport
    obtain ⟨r', rfl, hr'⟩ := Standard.verify_batchTransfer_eq_ok hreport'
    rw [Report.get?_of_mem_unitRequirements hname] at hmet ⊢
    have hmono := BatchTransfer.unitFindings_mono (s := s) (t := t) rfl (hsubset hbodies) hr hr'
    exact hmono.lookup hmet

/-- A batch transfer whose callees bind the length of the ids and compare it. -/
def splitTransfer : Function :=
  ⟨"f", "", "", 0, 0, "function f() \x7b g(); h(); \x7d", true,
    ⟨[("from", "address"), ("to", "address"), ("ids", "uint256[]"), ("amounts", "uint256[]")]⟩⟩

/-- A callee that binds the length of the ids. -/
def lengthBinder (name : String) : Function :=
  ⟨name, "", "", 0, 0, "function g() \x7b uint n = ids.length; \x7d", true, .empty⟩

/-- A callee that compares the length of the amounts with the name that another callee binds. -/
def lengthComparer (name : String) : Function :=
  ⟨name, "", "", 0, 0, "function h() \x7b require(n == amounts.length); \x7d", true, .empty⟩

/-- The lengths are compared whatever the order, names and repetitions of the two callees. -/
theorem verify_depends_on_bodies_split :
    otherBodies splitTransfer [lengthBinder "g", lengthComparer "h"] =
        otherBodies splitTransfer [lengthComparer "a", lengthBinder "b", lengthComparer "c"] ∧
      ∃ report report',
        Standard.erc1155BatchTransfer.verify
          ⟨splitTransfer, [lengthBinder "g", lengthComparer "h"], "", .standard⟩ = .ok report ∧
        Standard.erc1155BatchTransfer.verify ⟨splitTransfer,
          [lengthComparer "a", lengthBinder "b", lengthComparer "c"], "", .standard⟩ =
            .ok report' ∧
        report.get? "length_matching_check" = some true ∧
        report'.get? "length_matching_check" = some true := by
  have hbodies : otherBodies splitTransfer [lengthBinder "g", lengthComparer "h"] =
      otherBodies splitTransfer [lengthComparer "a", lengthBinder "b", lengthComparer "c"] := by
    ext body
    simp only [otherBodies, Set.mem_ofPred_eq, List.mem_cons, List.not_mem_nil, or_false,
      exists_eq_or_imp, exists_eq_left]
    simp only [lengthBinder, lengthComparer]
    tauto
  have hfirst : ((Standard.erc1155BatchTransfer.verify
      ⟨splitTransfer, [lengthBinder "g", lengthComparer "h"], "", .standard⟩).toOption.bind
        (·.get? "length_matching_check")) = some true := by
    decide +kernel
  have hsecond : (Standard.erc1155BatchTransfer.verify ⟨splitTransfer,
      [lengthComparer "a", lengthBinder "b", lengthComparer "c"], "", .standard⟩).toOption.isSome =
        true := by
    decide +kernel
  refine ⟨hbodies, ?_⟩
  cases hreport : Standard.erc1155BatchTransfer.verify
      ⟨splitTransfer, [lengthBinder "g", lengthComparer "h"], "", .standard⟩ with
  | error fault =>
    rw [hreport] at hfirst
    cases hfirst
  | ok report =>
    cases hreport' : Standard.erc1155BatchTransfer.verify ⟨splitTransfer,
        [lengthComparer "a", lengthBinder "b", lengthComparer "c"], "", .standard⟩ with
    | error fault =>
      rw [hreport'] at hsecond
      cases hsecond
    | ok report' =>
      rw [hreport] at hfirst
      have hagree := ((verify_depends_on_bodies _ _ _ _ _).1 hbodies).2 report report' hreport
        hreport' "length_matching_check" (by decide)
      exact ⟨report, report', rfl, rfl, hfirst, hagree ▸ hfirst⟩

end TokenAudit
