import TokenAudit.Proofs.ByteScan.Conditions
import TokenAudit.Proofs.ByteScan.Declarations
import TokenAudit.Proofs.Pattern.Language
import TokenAudit.Requirement.BatchTransfer.Receiver

/-!
# Scans by offset end normally

The text around a call is cut out between the boundaries next to two offsets. Downwards a boundary
is met before zero is passed, and upwards before the end is. Together with the scans for
declarations and conditions, none of the scans by offset breaks off on any text, and each gives what
the walk over the characters gives.

## Main results

* `floorAt_eq_ok`, `ceilAt_eq_ok`: the boundary next to an offset is found without a fault.
* `surroundingsAt_eq_ok`: the text around a piece is cut out without a fault.
* `scans_by_offset_end_normally`: no scan breaks off.
-/

namespace TokenAudit.ByteScan

open Text Condition BatchTransfer

/-! ## The nearest boundaries -/

/-- The boundary that is met first on the way down from an offset. -/
def floorDown (text : List Char) : Nat → Except ScanFault Nat
  | 0 => if IsBoundary text 0 then .ok 0 else .error (.underflow 0)
  | index + 1 => if IsBoundary text (index + 1) then .ok (index + 1) else floorDown text index

/-- The boundary that is met first on the way up from an offset. -/
def ceilUp (text : List Char) (index : Nat) : Except ScanFault Nat :=
  if IsBoundary text index then .ok index
  else if index < byteLength text then ceilUp text (index + 1)
  else .error (.stuck index)
termination_by byteLength text - index

/-- The largest boundary at or below an offset, looked for within the text. -/
def floorAt (text : List Char) (offset : Nat) : Except ScanFault Nat :=
  floorDown text (min offset (byteLength text))

/-- The smallest boundary at or above an offset, looked for within the text. -/
def ceilAt (text : List Char) (offset : Nat) : Except ScanFault Nat :=
  ceilUp text (min offset (byteLength text))

theorem isBoundary_zero (text : List Char) : IsBoundary text 0 :=
  ⟨[], text, rfl, rfl⟩

theorem isBoundary_byteLength (text : List Char) : IsBoundary text (byteLength text) :=
  ⟨text, [], (List.append_nil text).symm, rfl⟩

/-- On the way down a boundary is met, and it is the last one that is not above the offset. -/
theorem floorDown_eq_ok (text : List Char) (index : Nat) :
    ∃ found, floorDown text index = .ok found ∧ IsBoundary text found ∧ found ≤ index ∧
      ∀ other, IsBoundary text other → other ≤ index → other ≤ found := by
  induction index with
  | zero =>
    rw [floorDown, if_pos (isBoundary_zero text)]
    exact ⟨0, rfl, isBoundary_zero text, Nat.le_refl 0, fun _ _ hle => hle⟩
  | succ index ih =>
    rw [floorDown]
    split
    · next hboundary => exact ⟨index + 1, rfl, hboundary, Nat.le_refl _, fun _ _ hle => hle⟩
    · next hinside =>
      obtain ⟨found, hfound, hboundary, hle, hlast⟩ := ih
      refine ⟨found, hfound, hboundary, Nat.le_succ_of_le hle, fun other hother hbelow => ?_⟩
      have hne : other ≠ index + 1 := fun heq => hinside (heq ▸ hother)
      exact hlast other hother (by omega)

/-- On the way up within the text a boundary is met, and it is the first one that is not below the
offset. -/
theorem ceilUp_eq_ok {text : List Char} {index : Nat} (hindex : index ≤ byteLength text) :
    ∃ found, ceilUp text index = .ok found ∧ IsBoundary text found ∧ index ≤ found ∧
      ∀ other, IsBoundary text other → index ≤ other → found ≤ other := by
  fun_induction ceilUp text index with
  | case1 index hboundary => exact ⟨index, rfl, hboundary, Nat.le_refl _, fun _ _ hle => hle⟩
  | case2 index hinside hlt ih =>
    obtain ⟨found, hfound, hboundary, hle, hfirst⟩ := ih hlt
    refine ⟨found, hfound, hboundary, by omega, fun other hother habove => ?_⟩
    have hne : other ≠ index := fun heq => hinside (heq ▸ hother)
    exact hfirst other hother (by omega)
  | case3 index hinside hend =>
    have hlast : index = byteLength text := by omega
    exact absurd (hlast ▸ isBoundary_byteLength text) hinside

/-- The boundary below an offset is found without a fault. -/
theorem floorAt_eq_ok (text : List Char) (offset : Nat) :
    floorAt text offset = .ok (floorBoundary text offset) := by
  obtain ⟨found, hfound, hboundary, hle, hlast⟩ :=
    floorDown_eq_ok text (min offset (byteLength text))
  obtain ⟨hboundary', hle', hlast'⟩ := floorBoundary_spec text offset
  -- No boundary lies behind the end, so it does not matter that the offset is clamped.
  have hwithin := hboundary'.le_byteLength
  have hbelow := hlast' found hboundary (by omega)
  have habove := hlast _ hboundary' (by omega)
  rw [floorAt, hfound, Nat.le_antisymm hbelow habove]

/-- The boundary above an offset is found without a fault. -/
theorem ceilAt_eq_ok (text : List Char) (offset : Nat) :
    ceilAt text offset = .ok (ceilBoundary text offset) := by
  obtain ⟨found, hfound, hboundary, hle, hfirst⟩ :=
    ceilUp_eq_ok (Nat.min_le_right offset (byteLength text))
  obtain ⟨hboundary', hle', hfirst'⟩ := ceilBoundary_spec text offset
  rw [ceilAt, hfound,
    Nat.le_antisymm (hfirst _ hboundary' hle') (hfirst' found hboundary hle)]

/-! ## The text around a call -/

/-- The offsets between which the text around a piece is read: in order, the last boundary that is
not above the lower end of the type window, and the first one that is not below its upper end,
within the text. -/
structure Surrounds (text : List Char) (start stop first last : Nat) : Prop where
  ordered : first ≤ last
  first_boundary : IsBoundary text first
  first_le : first ≤ start - typeWindow
  first_greatest : ∀ other, IsBoundary text other → other ≤ start - typeWindow → other ≤ first
  last_boundary : IsBoundary text last
  le_last : min (stop + typeWindow) (byteLength text) ≤ last
  last_least : ∀ other, IsBoundary text other → min (stop + typeWindow) (byteLength text) ≤ other →
    last ≤ other

/-- The boundaries next to the type window are the offsets of the text around a piece. -/
theorem surrounds_boundaries (text : List Char) {start stop : Nat} (hle : start ≤ stop) :
    Surrounds text start stop (floorBoundary text (start - typeWindow))
      (ceilBoundary text (stop + typeWindow)) := by
  obtain ⟨hfirst, hfirst_le, hgreatest⟩ := floorBoundary_spec text (start - typeWindow)
  obtain ⟨hlast, hle_last, hleast⟩ := ceilBoundary_spec text (stop + typeWindow)
  refine ⟨?_, hfirst, hfirst_le, hgreatest, hlast, hle_last, hleast⟩
  have := hfirst.le_byteLength
  omega

/-- The text around a piece, by offsets. -/
def surroundingsAt (code : List Char) (start stop : Nat) : Except ScanFault (List Char) := do
  let first ← floorAt code (start - typeWindow)
  let last ← ceilAt code (stop + typeWindow)
  slice code first last

/-- The text around a piece is cut out without a fault. -/
theorem surroundingsAt_eq_ok (code : List Char) {start stop : Nat} (hle : start ≤ stop) :
    surroundingsAt code start stop = .ok (surroundings code start stop) := by
  have hwindow := surrounds_boundaries code hle
  rw [surroundingsAt, floorAt_eq_ok, ceilAt_eq_ok]
  exact slice_eq_ok_iff.mpr
    (isSlice_takeBytes hwindow.first_boundary hwindow.last_boundary hwindow.ordered)

/-- Whether the types of the hook's arguments are named near the first call, by offsets. -/
def typesNearbyAt (code : List Char) : Except ScanFault Bool := do
  match nestedCall.find? code with
  | none => return false
  | some found =>
    let near ← surroundingsAt code found.start found.stop
    return hasInfix "address".toList near && hasInfix "uint256[]".toList near &&
      hasInfix "bytes".toList near

/-- Whether the hook is called with arguments that are recognised, by offsets. -/
def recognisedAt (code : List Char) (params : Params) (caller : Option String) :
    Except ScanFault Bool := do
  if (exactCall params caller).finds code then return true
  if ← typesNearbyAt code then return true
  return countedCall.isMatch code

/-- A piece that a search finds starts before it stops. -/
theorem start_le_stop {p : Pattern} {text : List Char} {found : Pattern.Found}
    (h : p.find? text = some found) : found.start ≤ found.stop := by
  obtain ⟨skipped, piece, rest, _, _, hstop, _⟩ := Pattern.find?_eq_some_start h
  omega

theorem typesNearbyAt_eq_ok (code : List Char) :
    typesNearbyAt code = .ok (typesNearby code) := by
  rw [typesNearbyAt, typesNearby]
  cases hfound : nestedCall.find? code with
  | none => rfl
  | some found =>
    dsimp only
    rw [surroundingsAt_eq_ok code (start_le_stop hfound)]
    rfl

/-- The arguments of the hook are looked at without a fault. -/
theorem recognisedAt_eq_ok (code : List Char) (params : Params) (caller : Option String) :
    recognisedAt code params caller = .ok (argumentsRecognised code params caller) := by
  rw [recognisedAt, typesNearbyAt_eq_ok, argumentsRecognised]
  cases (exactCall params caller).finds code
  · cases typesNearby code <;> rfl
  · rfl

/-! ## All scans -/

/-- A round from a boundary ends without a fault, and if it finds an `if` it moves on to a later
boundary. -/
theorem ifRound_moves {code : List Char} {position : Nat} (h : IsBoundary code position) :
    ifRound code position = .ok none ∨
      ∃ round, ifRound code position = .ok (some round) ∧ position < round.next ∧
        IsBoundary code round.next := by
  obtain ⟨front, text, rfl, rfl⟩ := h
  rcases ifRound_eq_ok front text with ⟨hend, _⟩ | ⟨passed, rest, found, rfl, hne, hround, _⟩
  · exact .inl hend
  · exact .inr ⟨_, hround, byteLength_lt_append front hne, front ++ passed, rest,
      (List.append_assoc ..).symm, rfl⟩

/-- On every text the scans by offset end without a fault, and they give what the walks over the
characters give: every cut is made at two boundaries in order, no counter of brackets is taken below
zero, each round of the search for guards that revert moves on to a later boundary, and the text
around a call is read between the boundaries next to the type window. -/
theorem scans_by_offset_end_normally (source : String) :
    declarationsAt source = .ok (declarations source) ∧
    requiresAt source.toList = .ok (requires source.toList) ∧
    ifRounds source.toList 0 = .ok (ifReverts source.toList) ∧
    (∀ position, IsBoundary source.toList position →
      ifRound source.toList position = .ok none ∨
        ∃ round, ifRound source.toList position = .ok (some round) ∧ position < round.next ∧
          IsBoundary source.toList round.next) ∧
    (∀ params caller, recognisedAt source.toList params caller =
      .ok (argumentsRecognised source.toList params caller)) ∧
    ∀ found, nestedCall.find? source.toList = some found →
      ∃ first last, floorAt source.toList (found.start - typeWindow) = .ok first ∧
        ceilAt source.toList (found.stop + typeWindow) = .ok last ∧
        Surrounds source.toList found.start found.stop first last := by
  refine ⟨declarationsAt_eq_ok source, requiresAt_eq_ok _, ifRounds_eq_ok [] _,
    fun position => ifRound_moves, recognisedAt_eq_ok _, fun found hfound => ?_⟩
  exact ⟨_, _, floorAt_eq_ok .., ceilAt_eq_ok ..,
    surrounds_boundaries _ (start_le_stop hfound)⟩

end TokenAudit.ByteScan
