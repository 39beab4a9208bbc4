import Mathlib.Data.List.Forall2
import TokenAudit.Requirement.BatchTransfer.Verify

/-!
# What the names of the callees add

After the check of a batch transfer the names of its callees are looked at. Each name meets the
requirements that some rule attaches to a part of it, and nothing ever takes a verdict back. So all
names together meet what some name meets, whatever their order is and however often they stand
there; every law of the pass is read off this one statement.

## Main definitions

* `calleeRules`: the parts of a name, with the requirements that they meet.
* `nameMeets`: a name meets a requirement by itself.

## Main results

* `checklist_applyCallee`, `checklist_applyCallees`: the verdicts after one name and after all.
* `gasFamily_applyCallees_eq`: the gas finding after all names.
* `applyCallees_closes_report`: the pass only adds, adds the same once or twice, and adds what the
  set of the names adds.
-/

namespace TokenAudit

/-- A report is told by its verdicts and its gas finding. -/
theorem BatchTransferReport.eq_of_checklist_eq {r s : BatchTransferReport}
    (hlist : r.checklist = s.checklist) (hgas : r.gasFamily = s.gasFamily) : r = s := by
  cases r
  cases s
  simp_all [checklist]

namespace BatchTransfer

/-- The parts of a callee's name that mean something, each with the requirements that a name with
this part meets. -/
def calleeRules : List (String × List String) :=
  [("onERC1155BatchReceived", ["on_received_check"]),
   ("isContract", ["to_isContract_check"]),
   ("isApprovedForAll", ["approval_check"]),
   ("msgSender", ["sender_check"]),
   ("isOperatable", ["sender_check", "approval_check"]),
   ("isApprovedOrOwner", ["sender_check", "approval_check"]),
   ("isSameLength", ["length_matching_check"])]

/-- A callee's name meets a requirement by itself. -/
def nameMeets (name requirement : String) : Bool :=
  calleeRules.any fun rule => Text.occursIn rule.1 name && rule.2.contains requirement

/-! ## One name and all names -/

/-- The verdicts after one name: a requirement is met if it was met or the name meets it. -/
theorem checklist_applyCallee (profile : Profile) (report : BatchTransferReport) (name : String) :
    (applyCallee profile report name).checklist =
      report.checklist.map fun entry => (entry.1, entry.2 || nameMeets name entry.1) := by
  simp [applyCallee, BatchTransferReport.checklist, nameMeets, calleeRules, hook, Bool.or_assoc]

/-- The verdicts after all names: a requirement is met if it was met or some name meets it. -/
theorem checklist_applyCallees (profile : Profile) (report : BatchTransferReport)
    (callees : List Function) :
    (applyCallees profile report callees).checklist =
      report.checklist.map fun entry =>
        (entry.1, entry.2 || (callees.map (·.name)).any (nameMeets · entry.1)) := by
  induction callees generalizing report with
  | nil => simp [applyCallees]
  | cons callee rest ih =>
    rw [applyCallees, List.foldl_cons, ← applyCallees, ih, checklist_applyCallee, List.map_map]
    refine List.map_congr_left fun entry _ => ?_
    simp only [Function.comp_apply, List.map_cons, List.any_cons, Bool.or_assoc]

/-- The gas finding after one name. -/
theorem gasFamily_applyCallee (profile : Profile) (report : BatchTransferReport) (name : String) :
    (applyCallee profile report name).gasFamily =
      if profile = .gasFamily ∧ name = "safeTransferFrom" then some true
      else report.gasFamily := by
  have hprofile : (profile == .gasFamily) = true ↔ profile = .gasFamily := by
    cases profile <;> decide
  simp only [applyCallee, Bool.and_eq_true, beq_iff_eq, hprofile, and_comm]

/-- The gas finding after all names: it is made if the profile asks for it and the single transfer
is among the names. -/
theorem gasFamily_applyCallees_eq (profile : Profile) (report : BatchTransferReport)
    (callees : List Function) :
    (applyCallees profile report callees).gasFamily =
      if profile = .gasFamily ∧ "safeTransferFrom" ∈ callees.map (·.name) then some true
      else report.gasFamily := by
  induction callees generalizing report with
  | nil => simp [applyCallees]
  | cons callee rest ih =>
    rw [applyCallees, List.foldl_cons, ← applyCallees, ih, gasFamily_applyCallee]
    simp only [List.map_cons, List.mem_cons]
    split_ifs <;> grind

/-- What no single name changes is as it was after all names. -/
theorem applyCallees_keeps {α : Type} {part : BatchTransferReport → α} {profile : Profile}
    (hpart : ∀ report name, part (applyCallee profile report name) = part report)
    (report : BatchTransferReport) (callees : List Function) :
    part (applyCallees profile report callees) = part report := by
  induction callees generalizing report with
  | nil => rfl
  | cons callee rest ih =>
    calc part (applyCallees profile (applyCallee profile report callee.name) rest)
        = part (applyCallee profile report callee.name) := ih _
      _ = part report := hpart report callee.name

/-! ## Laws -/

/-- The names are looked at one list after the other. -/
theorem applyCallees_append (profile : Profile) (report : BatchTransferReport)
    (first second : List Function) :
    applyCallees profile report (first ++ second) =
      applyCallees profile (applyCallees profile report first) second :=
  List.foldl_append

/-- Lists with the same names add the same. -/
theorem applyCallees_eq_of_names {first second : List Function}
    (hnames : ∀ name, name ∈ first.map (·.name) ↔ name ∈ second.map (·.name)) (profile : Profile)
    (report : BatchTransferReport) :
    applyCallees profile report first = applyCallees profile report second := by
  have hany : ∀ p : String → Bool, (first.map (·.name)).any p = (second.map (·.name)).any p := by
    intro p
    rw [Bool.eq_iff_iff, List.any_eq_true, List.any_eq_true]
    exact exists_congr fun name => and_congr_left fun _ => hnames name
  refine BatchTransferReport.eq_of_checklist_eq ?_ ?_
  · simp only [checklist_applyCallees, hany]
  · simp only [gasFamily_applyCallees_eq, hnames]

/-- What the pass over the names of the callees does to a report. A requirement is met after it
exactly if it was met before or some name meets it, so no verdict is taken back; the zero address
and the event are left alone. To go over the same names again adds nothing, only the set of the
names counts, and two lists one after the other add what they add together. -/
theorem applyCallees_closes_report (profile : Profile) (report : BatchTransferReport)
    (first second : List Function) :
    List.Forall₂ (fun before after => after.1 = before.1 ∧
        (after.2 = true ↔ before.2 = true ∨ ∃ f ∈ first, nameMeets f.name before.1 = true))
      report.checklist (applyCallees profile report first).checklist ∧
    (applyCallees profile report first).zeroAddress = report.zeroAddress ∧
    (applyCallees profile report first).eventOrder = report.eventOrder ∧
    (applyCallees profile report first).eventFound = report.eventFound ∧
    applyCallees profile (applyCallees profile report first) first =
      applyCallees profile report first ∧
    ((∀ name, name ∈ first.map (·.name) ↔ name ∈ second.map (·.name)) →
      applyCallees profile report first = applyCallees profile report second) ∧
    applyCallees profile (applyCallees profile report first) second =
      applyCallees profile report (first ++ second) := by
  have hlist := checklist_applyCallees profile report first
  refine ⟨?_, applyCallees_keeps (fun _ _ => rfl) report first,
    applyCallees_keeps (fun _ _ => rfl) report first,
    applyCallees_keeps (fun _ _ => rfl) report first, ?_,
    fun hnames => applyCallees_eq_of_names hnames profile report,
    (applyCallees_append profile report first second).symm⟩
  · rw [hlist, List.forall₂_map_right_iff]
    exact List.forall₂_same.mpr fun entry _ => ⟨rfl, by simp⟩
  · -- The same list twice has the names that it has once.
    rw [← applyCallees_append]
    exact applyCallees_eq_of_names (fun name => by simp) profile report

/-- Two callees, and the same ones in another order with one of them repeated: the names meet three
requirements, and the single transfer is a gas finding. -/
theorem applyCallees_closes_report_repeated :
    let stub (name : String) : Function := ⟨name, "", "", 0, 0, "", false, .empty⟩
    let first := [stub "_isApprovedOrOwner", stub "isContract", stub "safeTransferFrom"]
    let second := [stub "safeTransferFrom", stub "isContract", stub "isContract",
      stub "_isApprovedOrOwner"]
    applyCallees .gasFamily (.start .gasFamily) first =
      applyCallees .gasFamily (.start .gasFamily) second ∧
    applyCallees .gasFamily (.start .gasFamily) first =
      { BatchTransferReport.start .gasFamily with
        sender := true, approval := true, toIsContract := true, gasFamily := some true } := by
  intro stub first second
  have hnames : ∀ name, name ∈ first.map (·.name) ↔ name ∈ second.map (·.name) := by
    intro name
    simp only [first, second, stub, List.map_cons, List.map_nil, List.mem_cons,
      List.not_mem_nil, or_false]
    grind
  obtain ⟨-, -, -, -, -, hsame, -⟩ :=
    applyCallees_closes_report .gasFamily (.start .gasFamily) first second
  exact ⟨hsame hnames, by decide +kernel⟩

end BatchTransfer

end TokenAudit
