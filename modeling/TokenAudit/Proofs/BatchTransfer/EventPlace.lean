import TokenAudit.Proofs.Audit.Sequence
import TokenAudit.Proofs.Text.Offset
import TokenAudit.Requirement.BatchTransfer.Verify
import Mathlib.Data.List.Basic

/-!
# The place of the event

The check of a batch transfer keeps the place of the first event with the label of its unit, and
cuts every later unit of that label there. This module says exactly when such a cut fails.

## Main definitions

* `EventFirstIn`: a unit is the first with an event, at a given place.
* `CutsOutside`: some later unit with the label of the event's unit has no boundary at that place.

## Main results

* `step_of_open`, `step_of_found`, `step_of_placed`: what one unit does to the progress.
* `verify_eq_error_iff`: the check breaks off exactly when a cut fails.
-/

namespace TokenAudit.BatchTransfer

open Text

/-! ## One unit -/

/-- The event has not been found. -/
def Progress.Open (progress : Progress) : Prop :=
  progress.report.eventFound = false ∧ progress.place = none

/-- The event has been found at the given place. -/
def Progress.Placed (progress : Progress) (place : EventPlace) : Prop :=
  progress.report.eventFound = true ∧ progress.place = some place

/-- What is looked for in a unit once the order of the event and the calls has been checked. -/
def finish (params : Params) (unit : CodeUnit) (progress : Progress) : Progress :=
  let progress := { progress with report := checkContract params.recipient progress.report unit }
  { progress with report := checkReceiver params progress unit }

theorem step_eq_map_finish (params : Params) (progress : Progress) (unit : CodeUnit) :
    step params progress unit =
      (checkOrder (findEvent progress unit) unit).map (finish params unit) := by
  rw [step]
  cases checkOrder (findEvent progress unit) unit <;> rfl

@[simp]
theorem finish_place (params : Params) (unit : CodeUnit) (progress : Progress) :
    (finish params unit progress).place = progress.place := rfl

@[simp]
theorem checkContract_eventFound (recipient : Option String) (report : BatchTransferReport)
    (unit : CodeUnit) : (checkContract recipient report unit).eventFound = report.eventFound := by
  cases recipient <;> rfl

@[simp]
theorem checkReceiver_eventFound (params : Params) (progress : Progress) (unit : CodeUnit) :
    (checkReceiver params progress unit).eventFound = progress.report.eventFound := by
  rw [checkReceiver]
  split
  · rfl
  · split <;> rfl

@[simp]
theorem finish_eventFound (params : Params) (unit : CodeUnit) (progress : Progress) :
    (finish params unit progress).report.eventFound = progress.report.eventFound := by
  simp [finish]

/-- Without an event in it, a unit shows nothing about the place. -/
theorem findEvent_of_open {progress : Progress} {unit : CodeUnit} (hopen : progress.Open)
    (hnone : event.find? unit.code = none) : findEvent progress unit = progress := by
  rw [findEvent, hopen.1, hnone]
  rfl

/-- Once the event has its place, no other is looked for. -/
theorem findEvent_of_placed {progress : Progress} {place : EventPlace}
    (hplaced : progress.Placed place) (unit : CodeUnit) : findEvent progress unit = progress := by
  rw [findEvent, hplaced.1, if_pos rfl]

/-- The first event is found at its place in the unit. -/
theorem placed_of_find?_eq_some {progress : Progress} {unit : CodeUnit} {found : Pattern.Found}
    (hopen : progress.Open) (hfound : event.find? unit.code = some found) :
    (findEvent progress unit).Placed ⟨unit.label, found.start⟩ := by
  rw [findEvent, hopen.1, hfound]
  exact ⟨rfl, rfl⟩

/-- Without an event in it, a unit leaves the place open. -/
theorem step_of_open (params : Params) {progress : Progress} {unit : CodeUnit}
    (hopen : progress.Open) (hnone : event.find? unit.code = none) :
    ∃ next, step params progress unit = .ok next ∧ next.Open := by
  have hcheck : checkOrder progress unit = .ok progress := by
    rw [checkOrder, hopen.2]
  refine ⟨finish params unit progress, ?_, ?_, ?_⟩
  · rw [step_eq_map_finish, findEvent_of_open hopen hnone, hcheck]
    rfl
  · rw [finish_eventFound, hopen.1]
  · rw [finish_place, hopen.2]

/-- A unit whose label is the event's is cut at the place of the event; other units are not cut. -/
theorem checkOrder_of_placed {progress : Progress} {place : EventPlace} {unit : CodeUnit}
    (hplaced : progress.Placed place) :
    (place.label = unit.label ∧ ¬IsBoundary unit.code place.offset ∧
      checkOrder progress unit = .error ⟨place.label, place.offset⟩) ∨
    ((place.label = unit.label → IsBoundary unit.code place.offset) ∧
      ∃ next, checkOrder progress unit = .ok next ∧ next.Placed place) := by
  rw [checkOrder, hplaced.2]
  by_cases hlabel : place.label = unit.label
  · simp only [hlabel, beq_self_eq_true, if_true, true_and]
    cases hcut : dropBytes? place.offset unit.code with
    | none => exact .inl ⟨dropBytes?_eq_none_iff.mp hcut, rfl⟩
    | some after =>
      refine .inr ⟨fun _ => ?_, _, rfl, hplaced.1, rfl⟩
      obtain ⟨before, htext, hlength⟩ := exists_of_dropBytes?_eq_some hcut
      exact ⟨before, after, htext, hlength⟩
  · exact .inr ⟨fun h => absurd h hlabel, progress, if_neg (by simpa using hlabel), hplaced⟩

/-- The first event is found at its place in the unit, where the unit can be cut. -/
theorem step_of_found (params : Params) {progress : Progress} {unit : CodeUnit}
    {found : Pattern.Found} (hopen : progress.Open) (hfound : event.find? unit.code = some found) :
    ∃ next, step params progress unit = .ok next ∧ next.Placed ⟨unit.label, found.start⟩ := by
  rcases checkOrder_of_placed (placed_of_find?_eq_some hopen hfound) with
    ⟨_, hcut, _⟩ | ⟨_, next, hnext, hnextPlaced⟩
  · exact absurd (Pattern.isBoundary_of_find?_eq_some hfound) hcut
  · refine ⟨finish params unit next, ?_, ?_, ?_⟩
    · rw [step_eq_map_finish, hnext]
      rfl
    · rw [finish_eventFound, hnextPlaced.1]
    · rw [finish_place, hnextPlaced.2]

/-- Once the event has its place, a unit is cut there or is not looked at for the order. -/
theorem step_of_placed (params : Params) {progress : Progress} {place : EventPlace}
    (unit : CodeUnit) (hplaced : progress.Placed place) :
    (place.label = unit.label ∧ ¬IsBoundary unit.code place.offset ∧
      step params progress unit = .error ⟨place.label, place.offset⟩) ∨
    ((place.label = unit.label → IsBoundary unit.code place.offset) ∧
      ∃ next, step params progress unit = .ok next ∧ next.Placed place) := by
  rw [step_eq_map_finish, findEvent_of_placed hplaced]
  rcases checkOrder_of_placed hplaced with ⟨hlabel, hcut, herror⟩ | ⟨hcut, next, hnext, hnextPlaced⟩
  · exact .inl ⟨hlabel, hcut, by rw [herror]; rfl⟩
  · refine .inr ⟨hcut, finish params unit next, by rw [hnext]; rfl, ?_, ?_⟩
    · rw [finish_eventFound, hnextPlaced.1]
    · rw [finish_place, hnextPlaced.2]

/-! ## All units -/

/-- The unit after `before` is the first with an event, and `found` is the first event in it. -/
def EventFirstIn (before : List CodeUnit) (unit : CodeUnit) (found : Pattern.Found) : Prop :=
  (∀ earlier ∈ before, event.find? earlier.code = none) ∧ event.find? unit.code = some found

/-- A unit with the label of the first unit that has an event stands after it and has no boundary
where the event is. -/
def CutsOutside (units : List CodeUnit) : Prop :=
  ∃ before unit after found, units = before ++ unit :: after ∧ EventFirstIn before unit found ∧
    ∃ later ∈ after, later.label = unit.label ∧ ¬IsBoundary later.code found.start

/-- Once the event has its place, the run breaks off exactly at a unit that cannot be cut there. -/
theorem foldlM_eq_error_iff_of_placed {params : Params} {place : EventPlace}
    {units : List CodeUnit} {progress : Progress} (hplaced : progress.Placed place) :
    (∃ fault, units.foldlM (step params) progress = .error fault) ↔
      ∃ unit ∈ units, unit.label = place.label ∧ ¬IsBoundary unit.code place.offset := by
  induction units generalizing progress with
  | nil =>
    constructor
    · rintro ⟨fault, h⟩
      cases h
    · rintro ⟨unit, hmem, _⟩
      exact absurd hmem List.not_mem_nil
  | cons unit rest ih =>
    rw [List.foldlM_cons, List.exists_mem_cons_iff]
    rcases step_of_placed params unit hplaced with
      ⟨hlabel, hcut, herror⟩ | ⟨hcut, next, hnext, hnextPlaced⟩
    · rw [herror]
      exact ⟨fun _ => .inl ⟨hlabel.symm, hcut⟩, fun _ => ⟨_, rfl⟩⟩
    · rw [hnext]
      refine Iff.trans (ih hnextPlaced) ⟨.inr, fun h => h.resolve_left ?_⟩
      rintro ⟨hlabel, hoff⟩
      exact hoff (hcut hlabel.symm)

/-- A unit without an event does not matter for the cuts. -/
theorem cutsOutside_cons_of_none {unit : CodeUnit} {rest : List CodeUnit}
    (hnone : event.find? unit.code = none) : CutsOutside (unit :: rest) ↔ CutsOutside rest := by
  constructor
  · rintro ⟨before, first, after, found, hunits, ⟨hbefore, hfirst⟩, hlater⟩
    cases before with
    | nil =>
      obtain ⟨rfl, rfl⟩ := List.cons.inj hunits
      rw [hnone] at hfirst
      cases hfirst
    | cons _ before =>
      obtain ⟨_, hrest⟩ := List.cons.inj hunits
      have hearlier := fun u hu => hbefore u (List.mem_cons_of_mem _ hu)
      exact ⟨before, first, after, found, hrest, ⟨hearlier, hfirst⟩, hlater⟩
  · rintro ⟨before, first, after, found, rfl, ⟨hbefore, hfirst⟩, hlater⟩
    refine ⟨unit :: before, first, after, found, rfl, ⟨fun u hu => ?_, hfirst⟩, hlater⟩
    rcases List.mem_cons.mp hu with rfl | hu
    · exact hnone
    · exact hbefore u hu

/-- A first unit with an event decides where the units after it are cut. -/
theorem cutsOutside_cons_of_some {unit : CodeUnit} {rest : List CodeUnit}
    {found : Pattern.Found} (hfound : event.find? unit.code = some found) :
    CutsOutside (unit :: rest) ↔
      ∃ later ∈ rest, later.label = unit.label ∧ ¬IsBoundary later.code found.start := by
  constructor
  · rintro ⟨before, first, after, found', hunits, ⟨hbefore, hfirst⟩, hlater⟩
    cases before with
    | nil =>
      obtain ⟨rfl, rfl⟩ := List.cons.inj hunits
      rw [hfound] at hfirst
      cases hfirst
      exact hlater
    | cons _ before =>
      obtain ⟨rfl, _⟩ := List.cons.inj hunits
      have hnone := hbefore unit List.mem_cons_self
      rw [hfound] at hnone
      cases hnone
  · intro hlater
    exact ⟨[], unit, rest, found, rfl, ⟨fun _ h => absurd h List.not_mem_nil, hfound⟩, hlater⟩

/-- Before the event is found, the run breaks off exactly if a later cut fails. -/
theorem foldlM_eq_error_iff_of_open (params : Params) {units : List CodeUnit}
    {progress : Progress} (hopen : progress.Open) :
    (∃ fault, units.foldlM (step params) progress = .error fault) ↔ CutsOutside units := by
  induction units generalizing progress with
  | nil =>
    constructor
    · rintro ⟨fault, h⟩
      cases h
    · rintro ⟨before, unit, after, found, hunits, _⟩
      exact absurd hunits.symm (List.append_ne_nil_of_right_ne_nil _ (List.cons_ne_nil _ _))
  | cons unit rest ih =>
    rw [List.foldlM_cons]
    -- The first unit with an event ends the open part of the run and fixes the place for the rest.
    cases hfind : event.find? unit.code with
    | none =>
      obtain ⟨next, hnext, hnextOpen⟩ := step_of_open params hopen hfind
      rw [hnext, cutsOutside_cons_of_none hfind]
      exact ih hnextOpen
    | some found =>
      obtain ⟨next, hnext, hnextPlaced⟩ := step_of_found params hopen hfind
      rw [hnext, cutsOutside_cons_of_some hfind]
      exact foldlM_eq_error_iff_of_placed hnextPlaced

/-- Conditions say nothing about the event. -/
theorem conditionFindings_eventFound (subject : Subject) :
    (conditionFindings subject).eventFound = false := by
  rw [conditionFindings]
  refine List.foldlRecOn _ _ (motive := fun report : BatchTransferReport =>
    report.eventFound = false) rfl ?_
  intro report hreport _ _
  exact hreport

/-- The check starts with no event found. -/
theorem open_start (subject : Subject) : Progress.Open ⟨conditionFindings subject, none⟩ :=
  ⟨conditionFindings_eventFound subject, rfl⟩

/-- A check that gives a report has gone along all units. -/
theorem foldlM_step_of_verify {subject : Subject} {report : BatchTransferReport}
    (h : verify subject = .ok report) :
    ∃ last, subject.units.foldlM (step (Params.of subject)) ⟨conditionFindings subject, none⟩ =
      .ok last ∧ last.report = report := by
  rw [verify] at h
  cases hrun :
      subject.units.foldlM (step (Params.of subject)) ⟨conditionFindings subject, none⟩ with
  | error fault =>
    rw [hrun] at h
    cases h
  | ok last =>
    rw [hrun] at h
    cases h
    exact ⟨last, rfl, rfl⟩

/-- The check of a batch transfer breaks off exactly when a unit cannot be cut at the place of the
event. -/
theorem verify_eq_error_iff (subject : Subject) :
    (∃ fault, verify subject = .error fault) ↔ CutsOutside subject.units := by
  refine Iff.trans ?_ (foldlM_eq_error_iff_of_open (Params.of subject) (open_start subject))
  rw [verify]
  exact map_eq_error_iff

end TokenAudit.BatchTransfer
