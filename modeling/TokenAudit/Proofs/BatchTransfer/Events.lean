import TokenAudit.Proofs.BatchTransfer.EventPlace
import TokenAudit.Proofs.Pattern.Language
import TokenAudit.Requirement.Report

/-!
# Events in the units of a batch transfer

An event is told by its wording alone. The check of a batch transfer looks for the first event of
the first unit that has one, and everything that it reads by byte offset is read at boundaries, but
for later units with the label of that unit.

## Main definitions

* `StartsEvent`, `EventAt`: an event stands at the start of a text; the first event of a text stands
  at a byte offset.
* `FirstEvent`: a unit is the first with an event, which stands at a byte offset.
* `CutFails`: a later unit with the label of the first unit with an event cannot be cut there.

## Main results

* `eventFirstIn_iff`: what the search for the event finds.
* `isSlice_surroundings`: the text around a call is read from boundary to boundary.
* `verify_breaks_off_iff`: the check breaks off exactly if a cut fails, and reports otherwise.
-/

namespace TokenAudit.BatchTransfer

open Text
open Unicode (isBlank)

/-! ## Events in a text -/

/-- An event stands at the start of the text: `emit` and blanks, then `TransferBatch` and an opening
parenthesis, with blanks between them or not. -/
def StartsEvent (text : List Char) : Prop :=
  ∃ gap space after,
    text = "emit".toList ++ gap ++ "TransferBatch".toList ++ space ++ '(' :: after ∧
    gap ≠ [] ∧ (∀ c ∈ gap, isBlank c = true) ∧ ∀ c ∈ space, isBlank c = true

/-- An event stands somewhere in the text. -/
def HasEvent (code : List Char) : Prop :=
  ∃ before rest, code = before ++ rest ∧ StartsEvent rest

/-- The first event of the text stands at a byte offset. -/
def EventAt (code : List Char) (place : Nat) : Prop :=
  ∃ before rest, code = before ++ rest ∧ byteLength before = place ∧ StartsEvent rest ∧
    ∀ earlier later, code = earlier ++ later → earlier.length < before.length → ¬StartsEvent later

/-- The pattern for the event describes nothing else. -/
theorem startsAt_event_iff (before : Option Char) (text : List Char) :
    event.StartsAt before text ↔ StartsEvent text := by
  -- The pattern is a chain of five pieces, of which the blanks after `emit` are one and more.
  constructor
  · rintro ⟨_, after, rfl, _, _, rfl, ⟨_, space, rfl, ⟨_, _, rfl, ⟨_, _, rfl, rfl,
      ⟨_, blanks, rfl, ⟨c, rfl, hc⟩, hblanks⟩⟩, rfl⟩, hspace⟩, rfl⟩
    refine ⟨c :: blanks, space, after, by simp, by simp, ?_, hspace⟩
    exact List.forall_mem_cons.mpr ⟨hc, hblanks⟩
  · rintro ⟨gap, space, after, rfl, hne, hgap, hspace⟩
    obtain ⟨c, blanks, rfl⟩ := List.exists_cons_of_ne_nil hne
    obtain ⟨hc, hblanks⟩ := List.forall_mem_cons.mp hgap
    exact ⟨_, after, by simp, _, _, rfl, ⟨_, space, rfl, ⟨_, _, rfl, ⟨_, _, rfl, rfl,
      ⟨[c], blanks, rfl, ⟨c, rfl, hc⟩, hblanks⟩⟩, rfl⟩, hspace⟩, rfl⟩

/-- The search for the event finds the first one. -/
theorem eventAt_of_find?_eq_some {code : List Char} {found : Pattern.Found}
    (h : event.find? code = some found) : EventAt code found.start := by
  obtain ⟨before, piece, rest, htext, hstart, _, hreads, hfirst⟩ := Pattern.find?_eq_some_start h
  refine ⟨before, piece ++ rest, htext, hstart.symm, ?_, fun earlier later htext hlt => ?_⟩
  · exact (startsAt_event_iff before.getLast? _).mp ⟨piece, rest, rfl, hreads⟩
  · exact fun hstarts => hfirst earlier later htext hlt
      ((startsAt_event_iff earlier.getLast? later).mpr hstarts)

/-- The search for the event finds nothing exactly in a text without one. -/
theorem find?_event_eq_none_iff {code : List Char} :
    event.find? code = none ↔ ¬HasEvent code := by
  rw [Pattern.find?_eq_none_iff]
  simp only [startsAt_event_iff]
  constructor
  · rintro h ⟨before, rest, htext, hstarts⟩
    exact h before rest htext hstarts
  · exact fun h earlier later htext hstarts => h ⟨earlier, later, htext, hstarts⟩

/-- A text has one first event. -/
theorem EventAt.unique {code : List Char} {place place' : Nat} (h : EventAt code place)
    (h' : EventAt code place') : place = place' := by
  obtain ⟨before, rest, htext, rfl, hstarts, hfirst⟩ := h
  obtain ⟨before', rest', htext', rfl, hstarts', hfirst'⟩ := h'
  -- Neither of the two can stand before the other.
  have hlength : before.length = before'.length := by
    rcases Nat.lt_trichotomy before.length before'.length with hlt | heq | hlt
    · exact absurd hstarts (hfirst' before rest htext hlt)
    · exact heq
    · exact absurd hstarts' (hfirst before' rest' htext' hlt)
  rw [(List.append_inj (htext.symm.trans htext') hlength).1]

theorem EventAt.hasEvent {code : List Char} {place : Nat} (h : EventAt code place) :
    HasEvent code := by
  obtain ⟨before, rest, htext, _, hstarts, _⟩ := h
  exact ⟨before, rest, htext, hstarts⟩

/-- A first event is found where it stands. -/
theorem EventAt.exists_find? {code : List Char} {place : Nat} (h : EventAt code place) :
    ∃ found, event.find? code = some found ∧ found.start = place := by
  cases hfind : event.find? code with
  | none => exact absurd h.hasEvent (find?_event_eq_none_iff.mp hfind)
  | some found => exact ⟨found, rfl, (eventAt_of_find?_eq_some hfind).unique h⟩

/-! ## Events in units -/

/-- The unit after `before` is the first with an event, and its first event stands at `place`. -/
structure FirstEvent (before : List CodeUnit) (unit : CodeUnit) (place : Nat) : Prop where
  /-- No unit before it has an event. -/
  before : ∀ earlier ∈ before, ¬HasEvent earlier.code
  /-- The place of the event. -/
  place : EventAt unit.code place

/-- What the search for the event finds in the units. -/
theorem eventFirstIn_iff {before : List CodeUnit} {unit : CodeUnit} {place : Nat} :
    (∃ found, EventFirstIn before unit found ∧ found.start = place) ↔
      FirstEvent before unit place := by
  constructor
  · rintro ⟨found, ⟨hbefore, hfound⟩, rfl⟩
    refine ⟨fun earlier hearlier => ?_, eventAt_of_find?_eq_some hfound⟩
    exact find?_event_eq_none_iff.mp (hbefore earlier hearlier)
  · intro h
    obtain ⟨found, hfound, hstart⟩ := h.place.exists_find?
    refine ⟨found, ⟨fun earlier hearlier => ?_, hfound⟩, hstart⟩
    exact find?_event_eq_none_iff.mpr (h.before earlier hearlier)

/-- A unit `later` stands after the first unit with an event and has the same label, but it ends
before the offset of the event or has a character across it. -/
def CutFails (units : List CodeUnit) : Prop :=
  ∃ before first between later after place,
    units = before ++ first :: (between ++ later :: after) ∧ FirstEvent before first place ∧
    first.label = later.label ∧
    (byteLength later.code < place ∨ ¬IsBoundary later.code place)

theorem cutsOutside_iff_cutFails (units : List CodeUnit) : CutsOutside units ↔ CutFails units := by
  constructor
  · rintro ⟨before, first, rest, found, rfl, hfirst, later, hlater, hlabel, hcut⟩
    obtain ⟨between, after, rfl⟩ := List.append_of_mem hlater
    exact ⟨before, first, between, later, after, found.start, rfl,
      eventFirstIn_iff.mp ⟨found, hfirst, rfl⟩, hlabel.symm, .inr hcut⟩
  · rintro ⟨before, first, between, later, after, place, rfl, hfirst, hlabel, hcut⟩
    obtain ⟨found, hfound, rfl⟩ := eventFirstIn_iff.mpr hfirst
    refine ⟨before, first, _, found, rfl, hfound, later, by simp, hlabel.symm, ?_⟩
    rcases hcut with hshort | hcut
    · exact fun hboundary => absurd hboundary.le_byteLength (Nat.not_le_of_lt hshort)
    · exact hcut

/-! ## Text around a call -/

/-- The text around a piece, widened to whole characters, is read from boundary to boundary. -/
theorem isSlice_surroundings (code : List Char) {start stop : Nat} (hle : start ≤ stop) :
    IsSlice code (floorBoundary code (start - typeWindow)) (ceilBoundary code (stop + typeWindow))
      (surroundings code start stop) := by
  obtain ⟨hfirst, hfloor, _⟩ := floorBoundary_spec code (start - typeWindow)
  obtain ⟨hlast, hceil, _⟩ := ceilBoundary_spec code (stop + typeWindow)
  refine isSlice_takeBytes hfirst hlast (Nat.le_trans ?_ hceil)
  have hinside := hfirst.le_byteLength
  omega

/-- The check of a batch transfer breaks off exactly if some later unit with the label of the first
unit with an event is too short for the offset of the event, or has a character across it. Otherwise
it gives a report. In the other place where the check reads by byte offsets, around a call of the
recipient, the two ends are boundaries of the text, in order. -/
theorem verify_breaks_off_iff (subject : Subject) :
    ((∃ fault, Standard.erc1155BatchTransfer.verify subject = .error fault) ↔
      CutFails subject.units) ∧
    (¬CutFails subject.units →
      ∃ report, Standard.erc1155BatchTransfer.verify subject = .ok (.batchTransfer report)) ∧
    ∀ code found, nestedCall.find? code = some found →
      IsSlice code (floorBoundary code (found.start - typeWindow))
        (ceilBoundary code (found.stop + typeWindow))
        (surroundings code found.start found.stop) := by
  have hbreaks : (∃ fault, Standard.erc1155BatchTransfer.verify subject = .error fault) ↔
      CutFails subject.units := by
    rw [← cutsOutside_iff_cutFails, ← verify_eq_error_iff, Standard.verify, map_eq_error_iff]
  refine ⟨hbreaks, fun hwhole => ?_, fun code found hfound => ?_⟩
  · cases hverify : verify subject with
    | error fault =>
      refine absurd (hbreaks.mp ⟨fault, ?_⟩) hwhole
      rw [Standard.verify, hverify]
      rfl
    | ok report =>
      refine ⟨report, ?_⟩
      rw [Standard.verify, hverify]
      rfl
  · obtain ⟨_, piece, _, _, _, hstop, _, _⟩ := Pattern.find?_eq_some_start hfound
    exact isSlice_surroundings code (by omega)

/-- A target with a callee that is given twice. -/
def overloaded (first second : String) : Subject :=
  ⟨⟨"f", "", "", 0, 21, "function f() \x7b a(); \x7d", true, .empty⟩,
    [⟨"a", "", "", 22, 22 + first.utf8ByteSize, first, true, .empty⟩,
      ⟨"a", "", "", 22, 22 + second.utf8ByteSize, second, true, .empty⟩], "", .standard⟩

theorem find?_event_overloaded_target :
    event.find? (CodeUnit.main "function f() \x7b a(); \x7d").code = none := by
  rw [← Option.isNone_iff_eq_none]
  decide +kernel

/-- With an event in the first of two overloads, the cut fails exactly if it does in the second. -/
theorem cutFails_overloaded_iff {first second : String} (place : Nat)
    (hunits : (overloaded first second).units =
      [.main "function f() \x7b a(); \x7d", .internal first "a", .internal second "a"])
    (hplace : (event.find? first.toList).map (·.start) = some place) :
    CutFails (overloaded first second).units ↔ ¬IsBoundary second.toList place := by
  obtain ⟨found, hfound, rfl⟩ := Option.map_eq_some_iff.mp hplace
  have hfirst : event.find? (CodeUnit.internal first "a").code = some found := hfound
  rw [← cutsOutside_iff_cutFails, hunits,
    cutsOutside_cons_of_none find?_event_overloaded_target, cutsOutside_cons_of_some hfirst]
  simp [CodeUnit.internal]

/-- An event at byte 15 of the first overload: the check breaks off if the second has a character of
two bytes there, and gives a report if the second ends there. -/
theorem verify_breaks_off_across_character :
    (∃ fault, Standard.erc1155BatchTransfer.verify
      (overloaded "function a() \x7b emit TransferBatch(1); \x7d" "function a() \x7bé \x7d") =
        .error fault) ∧
    ∃ report, Standard.erc1155BatchTransfer.verify
      (overloaded "function a() \x7b emit TransferBatch(1); \x7d" "function a() \x7b\x7d") =
        .ok (.batchTransfer report) := by
  constructor
  · apply (verify_breaks_off_iff _).1.mpr
    rw [cutFails_overloaded_iff 15 (by decide +kernel) (by decide +kernel)]
    decide +kernel
  · apply (verify_breaks_off_iff _).2.1
    rw [cutFails_overloaded_iff 15 (by decide +kernel) (by decide +kernel)]
    decide +kernel

end TokenAudit.BatchTransfer
