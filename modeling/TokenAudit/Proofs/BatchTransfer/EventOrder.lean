import Mathlib.Data.List.Induction
import TokenAudit.Proofs.BatchTransfer.Events
import TokenAudit.Proofs.BatchTransfer.Findings
import TokenAudit.Proofs.Text.Words

/-!
# The order of the event and transfer calls

The finding on the order is made anew in every unit with the label of the unit that has the event.
So it is the last of these units that decides, read from the byte offset of an event that stands in
the first of them. Where a callee has overloads this need not be the unit with the event.

## Main definitions

* `TransferFollows`: a transfer call stands in a text from a byte offset on.
* `SettledBy`: the unit with the event, and the last unit with its label.

## Main results

* `step_settles_order`, `step_keeps_order`: what one unit does to the finding.
* `eventOrder_iff_of_settledBy`: the last unit with the label decides.
* `eventOrder_follows_last_label`: that, and exactly when it is what the unit with the event shows.
-/

namespace TokenAudit.BatchTransfer

open Text

/-- A transfer call stands in the text from a byte offset on. -/
def TransferFollows (code : List Char) (place : Nat) : Prop :=
  ∃ before after, code = before ++ after ∧ byteLength before = place ∧
    ("safeTransferFrom(".toList <:+: after ∨ "safeBatchTransferFrom(".toList <:+: after)

/-- Transfer calls are looked for in what is cut off. -/
theorem any_transferCalls_iff {code after : List Char} {place : Nat}
    (h : dropBytes? place code = some after) :
    (transferCalls.any fun call => hasInfix call.toList after) = true ↔
      TransferFollows code place := by
  obtain ⟨before, rfl, rfl⟩ := exists_of_dropBytes?_eq_some h
  simp only [transferCalls, List.any_cons, List.any_nil, Bool.or_false, Bool.or_eq_true,
    hasInfix_iff]
  constructor
  · exact fun hcall => ⟨before, after, rfl, rfl, hcall⟩
  · rintro ⟨front, rest, htext, hlength, hcall⟩
    obtain ⟨_, rfl⟩ := append_inj_of_byteLength htext hlength.symm
    exact hcall

/-! ## One unit -/

variable {params : Params} {progress next last : Progress} {unit : CodeUnit} {place : EventPlace}

@[simp]
theorem finish_eventOrder (params : Params) (unit : CodeUnit) (progress : Progress) :
    (finish params unit progress).report.eventOrder = progress.report.eventOrder := by
  obtain ⟨_, hcontract⟩ := checkContract_eq params.recipient progress.report unit
  obtain ⟨_, hreceiver⟩ := checkReceiver_eq params
    { progress with report := checkContract params.recipient progress.report unit } unit
  rw [finish, hreceiver, hcontract]

/-- A unit with the label of the event settles the order anew. -/
theorem step_settles_order (hplaced : (findEvent progress unit).Placed place)
    (hlabel : place.label = unit.label) (h : step params progress unit = .ok next) :
    next.Placed place ∧
      (next.report.eventOrder = true ↔ ¬TransferFollows unit.code place.offset) := by
  -- The unit has been cut, or the step would have failed.
  rw [step_eq_map_finish, checkOrder, hplaced.2] at h
  simp only [hlabel, beq_self_eq_true, if_true] at h
  cases hcut : dropBytes? place.offset unit.code with
  | none =>
    rw [hcut] at h
    cases h
  | some after =>
    rw [hcut] at h
    cases h
    refine ⟨⟨?_, rfl⟩, ?_⟩
    · rw [finish_eventFound]
      exact hplaced.1
    · rw [finish_eventOrder, ← any_transferCalls_iff hcut, Bool.not_eq_true, Bool.not_eq_true']

/-- Any other unit keeps what has been found about the order. -/
theorem step_keeps_order (hplaced : progress.Placed place) (hlabel : unit.label ≠ place.label)
    (h : step params progress unit = .ok next) :
    next.Placed place ∧ next.report.eventOrder = progress.report.eventOrder := by
  have hother : (place.label == unit.label) = false := beq_eq_false_iff_ne.mpr hlabel.symm
  rw [step_eq_map_finish, findEvent_of_placed hplaced, checkOrder, hplaced.2] at h
  simp only [hother, Bool.false_eq_true, if_false] at h
  cases h
  refine ⟨⟨?_, ?_⟩, finish_eventOrder params unit progress⟩
  · rw [finish_eventFound, hplaced.1]
  · rw [finish_place, hplaced.2]

/-- So does a unit without an event before the event has been found. -/
theorem step_keeps_order_of_open (hopen : progress.Open) (hnone : ¬HasEvent unit.code)
    (h : step params progress unit = .ok next) :
    next.Open ∧ next.report.eventOrder = progress.report.eventOrder := by
  rw [step_eq_map_finish, findEvent_of_open hopen (find?_event_eq_none_iff.mpr hnone), checkOrder,
    hopen.2] at h
  cases h
  refine ⟨⟨?_, ?_⟩, finish_eventOrder params unit progress⟩
  · rw [finish_eventFound, hopen.1]
  · rw [finish_place, hopen.2]

/-! ## All units -/

/-- A run along units is a run along the first ones and then along the others. -/
theorem foldlM_step_append {front back : List CodeUnit}
    (h : (front ++ back).foldlM (step params) progress = .ok last) :
    ∃ middle, front.foldlM (step params) progress = .ok middle ∧
      back.foldlM (step params) middle = .ok last := by
  rw [List.foldlM_append] at h
  exact bind_eq_ok_iff.mp h

theorem foldlM_step_cons {rest : List CodeUnit}
    (h : (unit :: rest).foldlM (step params) progress = .ok last) :
    ∃ next, step params progress unit = .ok next ∧
      rest.foldlM (step params) next = .ok last := by
  rw [List.foldlM_cons] at h
  exact bind_eq_ok_iff.mp h

/-- Once it has a place, the event keeps it along a run. -/
theorem foldlM_step_keeps_place {units : List CodeUnit} (hplaced : progress.Placed place)
    (h : units.foldlM (step params) progress = .ok last) : last.Placed place := by
  induction units generalizing progress with
  | nil =>
    cases h
    exact hplaced
  | cons unit rest ih =>
    obtain ⟨next, hstep, hrest⟩ := foldlM_step_cons h
    rcases step_of_placed params unit hplaced with ⟨_, _, herror⟩ | ⟨_, other, hother, hnext⟩
    · rw [herror] at hstep
      cases hstep
    · rw [hother] at hstep
      cases hstep
      exact ih hnext hrest

/-- Units with other labels keep what has been found about the order. -/
theorem foldlM_step_keeps_order {units : List CodeUnit} (hplaced : progress.Placed place)
    (hlabels : ∀ unit ∈ units, unit.label ≠ place.label)
    (h : units.foldlM (step params) progress = .ok last) :
    last.report.eventOrder = progress.report.eventOrder := by
  induction units generalizing progress with
  | nil =>
    cases h
    rfl
  | cons unit rest ih =>
    obtain ⟨hunit, hrest⟩ := List.forall_mem_cons.mp hlabels
    obtain ⟨next, hstep, hlast⟩ := foldlM_step_cons h
    obtain ⟨hnext, horder⟩ := step_keeps_order hplaced hunit hstep
    rw [ih hnext hrest hlast, horder]

/-- So do units without an event before the event has been found. -/
theorem foldlM_step_keeps_order_of_open {units : List CodeUnit} (hopen : progress.Open)
    (hnone : ∀ unit ∈ units, ¬HasEvent unit.code)
    (h : units.foldlM (step params) progress = .ok last) :
    last.Open ∧ last.report.eventOrder = progress.report.eventOrder := by
  induction units generalizing progress with
  | nil =>
    cases h
    exact ⟨hopen, rfl⟩
  | cons unit rest ih =>
    obtain ⟨hunit, hrest⟩ := List.forall_mem_cons.mp hnone
    obtain ⟨next, hstep, hlast⟩ := foldlM_step_cons h
    obtain ⟨hnext, horder⟩ := step_keeps_order_of_open hopen hunit hstep
    rw [← horder]
    exact ih hnext hrest hlast

/-! ## The unit that decides -/

/-- The unit `first` is the first with an event, which stands at `place`, and `last` is the last
unit from there on that has the label of `first`. It is `first` itself if no later unit has. -/
def SettledBy (units : List CodeUnit) (first last : CodeUnit) (place : Nat) : Prop :=
  ∃ before after front tail, units = before ++ first :: after ∧ FirstEvent before first place ∧
    first :: after = front ++ last :: tail ∧ last.label = first.label ∧
    ∀ later ∈ tail, later.label ≠ first.label

/-- Along units that settle the order, the last unit with the label of the event decides. -/
theorem foldlM_step_settles_order {units : List CodeUnit} {first decisive : CodeUnit} {offset : Nat}
    (hopen : progress.Open) (hsettled : SettledBy units first decisive offset)
    (h : units.foldlM (step params) progress = .ok last) :
    last.report.eventOrder = true ↔ ¬TransferFollows decisive.code offset := by
  obtain ⟨before, after, front, tail, rfl, hfirst, hdecisive, hlabel, htail⟩ := hsettled
  obtain ⟨start, hbefore, hrest⟩ := foldlM_step_append h
  obtain ⟨hstart, _⟩ := foldlM_step_keeps_order_of_open hopen hfirst.before hbefore
  have hfound : (findEvent start first).Placed ⟨first.label, offset⟩ := by
    obtain ⟨found, hfound, rfl⟩ := hfirst.place.exists_find?
    exact placed_of_find?_eq_some hstart hfound
  -- The decisive unit is the one with the event, or the event has its place before it is reached.
  cases front with
  | nil =>
    obtain ⟨rfl, rfl⟩ := List.cons.inj hdecisive
    obtain ⟨next, hstep, hlast⟩ := foldlM_step_cons hrest
    obtain ⟨hnext, horder⟩ := step_settles_order hfound rfl hstep
    rw [foldlM_step_keeps_order hnext htail hlast, horder]
  | cons _ front =>
    obtain ⟨rfl, rfl⟩ := List.cons.inj hdecisive
    obtain ⟨next, hstep, hafter⟩ := foldlM_step_cons hrest
    obtain ⟨hnext, _⟩ := step_settles_order hfound rfl hstep
    obtain ⟨middle, hfront, hback⟩ := foldlM_step_append hafter
    have hmiddle := foldlM_step_keeps_place hnext hfront
    obtain ⟨settled, hsettle, hlast⟩ := foldlM_step_cons hback
    have hkept : (findEvent middle decisive).Placed ⟨first.label, offset⟩ := by
      rw [findEvent_of_placed hmiddle]
      exact hmiddle
    obtain ⟨hsettled, horder⟩ := step_settles_order hkept hlabel.symm hsettle
    rw [foldlM_step_keeps_order hsettled htail hlast, horder]

variable {subject : Subject} {report : BatchTransferReport}

/-- The last unit with the label of the event decides on the order. -/
theorem eventOrder_iff_of_settledBy (h : verify subject = .ok report) {first last : CodeUnit}
    {place : Nat} (hsettled : SettledBy subject.units first last place) :
    report.eventOrder = true ↔ ¬TransferFollows last.code place := by
  obtain ⟨progress, hrun, rfl⟩ := foldlM_step_of_verify h
  exact foldlM_step_settles_order (open_start subject) hsettled hrun

/-- Without an event there is no order to be found. -/
theorem eventOrder_of_not_hasEvent (h : verify subject = .ok report)
    (hnone : ∀ unit ∈ subject.units, ¬HasEvent unit.code) : report.eventOrder = false := by
  obtain ⟨progress, hrun, rfl⟩ := foldlM_step_of_verify h
  rw [(foldlM_step_keeps_order_of_open (open_start subject) hnone hrun).2, conditionFindings_eq]
  rfl

/-- There is no event in the units, or there is a first one. -/
theorem exists_firstEvent (units : List CodeUnit) :
    (∀ unit ∈ units, ¬HasEvent unit.code) ∨
      ∃ before first after place, units = before ++ first :: after ∧
        FirstEvent before first place := by
  induction units with
  | nil => exact .inl fun unit hunit => absurd hunit List.not_mem_nil
  | cons unit rest ih =>
    cases hfind : event.find? unit.code with
    | some found =>
      refine .inr ⟨[], unit, rest, found.start, rfl, fun _ h => absurd h List.not_mem_nil, ?_⟩
      exact eventAt_of_find?_eq_some hfind
    | none =>
      have hunit := find?_event_eq_none_iff.mp hfind
      rcases ih with hnone | ⟨before, first, after, place, rfl, hfirst⟩
      · exact .inl (List.forall_mem_cons.mpr ⟨hunit, hnone⟩)
      · exact .inr ⟨unit :: before, first, after, place, rfl,
          List.forall_mem_cons.mpr ⟨hunit, hfirst.before⟩, hfirst.place⟩

/-- From a unit on there is a last one with its label. -/
theorem exists_last_label (first : CodeUnit) (after : List CodeUnit) :
    ∃ front last tail, first :: after = front ++ last :: tail ∧ last.label = first.label ∧
      ∀ later ∈ tail, later.label ≠ first.label := by
  induction after using List.reverseRecOn with
  | nil => exact ⟨[], first, [], rfl, rfl, fun _ h => absurd h List.not_mem_nil⟩
  | append_singleton after unit ih =>
    by_cases hlabel : unit.label = first.label
    · exact ⟨first :: after, unit, [], rfl, hlabel, fun _ h => absurd h List.not_mem_nil⟩
    · obtain ⟨front, last, tail, hunits, hlast, htail⟩ := ih
      refine ⟨front, last, tail ++ [unit], ?_, hlast, fun later hlater => ?_⟩
      · rw [← List.cons_append, hunits, List.append_assoc, List.cons_append]
      · rcases List.mem_append.mp hlater with hold | hnew
        · exact htail later hold
        · rw [List.mem_singleton.mp hnew]
          exact hlabel

/-- There is one first event. -/
theorem FirstEvent.unique {before before' after after' : List CodeUnit} {first first' : CodeUnit}
    {place place' : Nat} (hunits : before ++ first :: after = before' ++ first' :: after')
    (h : FirstEvent before first place) (h' : FirstEvent before' first' place') :
    first = first' ∧ place = place' := by
  -- If one of the two units stood before the other, the other would have an event before it.
  have hfirst : first = first' := by
    rcases List.append_eq_append_iff.mp hunits with ⟨_ | ⟨unit, between⟩, hbefore, hrest⟩ |
      ⟨_ | ⟨unit, between⟩, hbefore, hrest⟩
    · exact (List.cons.inj hrest).1
    · obtain ⟨rfl, _⟩ := List.cons.inj hrest
      exact absurd h.place.hasEvent (h'.before first (by simp [hbefore]))
    · exact (List.cons.inj hrest).1.symm
    · obtain ⟨rfl, _⟩ := List.cons.inj hrest
      exact absurd h'.place.hasEvent (h.before first' (by simp [hbefore]))
  subst hfirst
  exact ⟨rfl, h.place.unique h'.place⟩

/-- In every report of a batch transfer, the order is found to be kept exactly if there is an event
and, in the last unit with the label of the first unit that has one, no transfer call stands from
the byte offset of the event on. That no transfer call follows the event in its own unit is what is
found exactly if, where there is an event, these two units agree on this. -/
theorem eventOrder_follows_last_label (h : verify subject = .ok report) :
    (report.eventOrder = true ↔ ∃ first last place, SettledBy subject.units first last place ∧
      ¬TransferFollows last.code place) ∧
    ((report.eventOrder = true ↔ ∃ before first after place,
        subject.units = before ++ first :: after ∧ FirstEvent before first place ∧
          ¬TransferFollows first.code place) ↔
      ∀ first last place, SettledBy subject.units first last place →
        (TransferFollows first.code place ↔ TransferFollows last.code place)) := by
  rcases exists_firstEvent subject.units with hnone | ⟨before, first, after, place, hunits, hfirst⟩
  · -- Without an event nothing is found, and there is no unit to speak of.
    have hfirst {before after : List CodeUnit} {first : CodeUnit} {place : Nat}
        (hunits : subject.units = before ++ first :: after)
        (hfirst : FirstEvent before first place) : False :=
      hnone first (by simp [hunits]) hfirst.place.hasEvent
    rw [eventOrder_of_not_hasEvent h hnone]
    refine ⟨iff_of_false Bool.false_ne_true ?_, iff_of_true (iff_of_false Bool.false_ne_true ?_) ?_⟩
    · rintro ⟨_, _, _, ⟨_, _, _, _, hunits, hevent, _⟩, _⟩
      exact hfirst hunits hevent
    · rintro ⟨_, _, _, _, hunits, hevent, _⟩
      exact hfirst hunits hevent
    · rintro _ _ _ ⟨_, _, _, _, hunits, hevent, _⟩
      exact absurd hevent fun hevent => hfirst hunits hevent
  · obtain ⟨front, last, tail, hafter, hlabel, htail⟩ := exists_last_label first after
    have hsettled : SettledBy subject.units first last place :=
      ⟨before, after, front, tail, hunits, hfirst, hafter, hlabel, htail⟩
    have horder := eventOrder_iff_of_settledBy h hsettled
    refine ⟨⟨fun hkept => ⟨first, last, place, hsettled, horder.mp hkept⟩, ?_⟩, ?_⟩
    · rintro ⟨_, _, _, hother, hcalls⟩
      exact (eventOrder_iff_of_settledBy h hother).mpr hcalls
    · -- There is one first event, so what is said of some unit with it is said of this one.
      have hown : (∃ before first after place, subject.units = before ++ first :: after ∧
          FirstEvent before first place ∧ ¬TransferFollows first.code place) ↔
          ¬TransferFollows first.code place := by
        constructor
        · rintro ⟨_, other, _, _, hunits', hother, hcalls⟩
          obtain ⟨rfl, rfl⟩ := FirstEvent.unique (hunits.symm.trans hunits') hfirst hother
          exact hcalls
        · exact fun hcalls => ⟨before, first, after, place, hunits, hfirst, hcalls⟩
      rw [hown]
      constructor
      · rintro hagree other otherLast otherPlace hother
        have hotherOrder := eventOrder_iff_of_settledBy h hother
        obtain ⟨_, _, _, _, hunits', hfirst', _⟩ := hother
        obtain ⟨rfl, rfl⟩ := FirstEvent.unique (hunits.symm.trans hunits') hfirst hfirst'
        exact not_iff_not.mp (hagree.symm.trans hotherOrder)
      · intro hagree
        rw [horder, hagree first last place hsettled]

/-- An overload with the event and then a transfer call, and one without either. -/
def calledAfterEvent : Subject :=
  overloaded "function a() \x7b emit TransferBatch(1); t.safeTransferFrom(2); \x7d"
    "function a(uint x) \x7b log(x); \x7d"

/-- The check gives a report, and finds the order kept. -/
theorem exists_verify_calledAfterEvent :
    ∃ report, verify calledAfterEvent = .ok report ∧ report.eventOrder = true := by
  have horder : (verify calledAfterEvent).toOption.map (·.eventOrder) = some true := by
    decide +kernel
  cases hverify : verify calledAfterEvent with
  | error fault =>
    rw [hverify] at horder
    cases horder
  | ok report =>
    rw [hverify] at horder
    exact ⟨report, rfl, Option.some.inj horder⟩

theorem eventOrder_follows_last_label_overloads :
    ∃ report, verify calledAfterEvent = .ok report ∧
      ∃ first last place, SettledBy calledAfterEvent.units first last place ∧
        ¬TransferFollows last.code place := by
  obtain ⟨report, hverify, horder⟩ := exists_verify_calledAfterEvent
  exact ⟨report, hverify, (eventOrder_follows_last_label hverify).1.mp horder⟩

/-- The order is found to be kept although a transfer call follows the event in the unit that has
it: the overload after that unit has no such call. -/
theorem eventOrder_kept_although_transfer_follows :
    (∃ report, verify calledAfterEvent = .ok report ∧ report.eventOrder = true) ∧
      ∃ before first after place, calledAfterEvent.units = before ++ first :: after ∧
        FirstEvent before first place ∧ TransferFollows first.code place := by
  refine ⟨exists_verify_calledAfterEvent, [.main "function f() \x7b a(); \x7d"],
    .internal "function a() \x7b emit TransferBatch(1); t.safeTransferFrom(2); \x7d" "a",
    [.internal "function a(uint x) \x7b log(x); \x7d" "a"], 15, by decide +kernel, ?_, ?_⟩
  · have hevent : (event.find? (CodeUnit.internal
        "function a() \x7b emit TransferBatch(1); t.safeTransferFrom(2); \x7d" "a").code).map
          (·.start) = some 15 := by
      decide +kernel
    obtain ⟨found, hfound, hstart⟩ := Option.map_eq_some_iff.mp hevent
    exact eventFirstIn_iff.mp
      ⟨found, ⟨List.forall_mem_singleton.mpr find?_event_overloaded_target, hfound⟩, hstart⟩
  · exact ⟨"function a() \x7b ".toList, "emit TransferBatch(1); t.safeTransferFrom(2); \x7d".toList,
      by decide +kernel, by decide +kernel, .inl (by decide +kernel)⟩

end TokenAudit.BatchTransfer
