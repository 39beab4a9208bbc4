import Mathlib.Data.Set.Basic
import TokenAudit.Code.Condition
import TokenAudit.Requirement.Context

/-!
# The code that a subject shows

Rules look at units one by one and, apart from the place of an event, at their code only. So what
they find is a matter of which texts are among the units, not of how often, in which order or under
which labels they stand there.

## Main definitions

* `codesOf`: the texts of a list of units.
* `boundLengths`: the names that one text binds to the length of an array.

## Main results

* `any_code_mono`, `any_harvest_mono`: what is found in some text or in some condition is found if
  there are more texts.
* `mem_lengthNames_iff`: the names bound to a length are those that some text binds.
-/

namespace TokenAudit

/-- The texts of the units. -/
def codesOf (units : List CodeUnit) : Set (List Char) :=
  {code | ∃ unit ∈ units, unit.code = code}

variable {units units' : List CodeUnit}

/-! ## Findings in the code -/

/-- What is found in the code of some unit is found if there are more texts. -/
theorem any_code_mono (h : codesOf units ⊆ codesOf units') (test : List Char → Bool)
    (hany : (units.any fun unit => test unit.code) = true) :
    (units'.any fun unit => test unit.code) = true := by
  obtain ⟨unit, hunit, htest⟩ := List.any_eq_true.mp hany
  obtain ⟨unit', hunit', hcode⟩ := h ⟨unit, hunit, rfl⟩
  refine List.any_eq_true.mpr ⟨unit', hunit', ?_⟩
  rw [hcode]
  exact htest

/-- What is found in the code of some unit is found in any other units with the same texts. -/
theorem any_code_congr (h : codesOf units = codesOf units') (test : List Char → Bool) :
    (units.any fun unit => test unit.code) = units'.any fun unit => test unit.code :=
  Bool.eq_iff_iff.mpr ⟨any_code_mono h.subset test, any_code_mono h.superset test⟩

/-! ## Findings in the conditions -/

/-- Whether a text has a condition of the given kind of content. -/
def guardedBy (test : GuardKind → List Char → Bool) (code : List Char) : Bool :=
  (Condition.requires code).any (test .require) || (Condition.ifReverts code).any (test .ifRevert)

/-- A test of conditions that does not ask for their units is a test of the code. -/
theorem any_harvest (units : List CodeUnit) (test : GuardKind → List Char → Bool) :
    ((Condition.harvest units).any fun c => test c.kind c.content) =
      units.any fun unit => guardedBy test unit.code := by
  induction units with
  | nil => rfl
  | cons unit rest ih =>
    rw [Condition.harvest, List.flatMap_cons, List.any_append, List.any_cons, ← ih]
    simp only [Condition.ofUnit, List.any_append, List.any_map, guardedBy]
    rfl

/-- A condition that is found is found if there are more texts. -/
theorem any_harvest_mono (h : codesOf units ⊆ codesOf units') (test : GuardKind → List Char → Bool)
    (hany : ((Condition.harvest units).any fun c => test c.kind c.content) = true) :
    ((Condition.harvest units').any fun c => test c.kind c.content) = true := by
  rw [any_harvest] at hany ⊢
  exact any_code_mono h (guardedBy test) hany

/-- A condition that is found is found in any other units with the same texts. -/
theorem any_harvest_congr (h : codesOf units = codesOf units')
    (test : GuardKind → List Char → Bool) :
    ((Condition.harvest units).any fun c => test c.kind c.content) =
      (Condition.harvest units').any fun c => test c.kind c.content :=
  Bool.eq_iff_iff.mpr ⟨any_harvest_mono h.subset test, any_harvest_mono h.superset test⟩

/-! ## Names of lengths -/

/-- The names that a text binds to the length of `array`. -/
def boundLengths (array : String) (code : List Char) : List String :=
  if (lengthBinding array).finds code then
    ((lengthBinding array).findAll code).filterMap (·.group? 1)
  else []

/-- Collecting names keeps those that are there and adds those that are new. -/
theorem mem_foldl_distinct {bound names : List String} {name : String} :
    name ∈ bound.foldl (fun names name => if names.contains name then names else names ++ [name])
      names ↔ name ∈ names ∨ name ∈ bound := by
  induction bound generalizing names with
  | nil => simp
  | cons first rest ih =>
    rw [List.foldl_cons, ih, List.mem_cons]
    by_cases hfirst : first ∈ names
    · rw [if_pos (by simpa using hfirst)]
      -- A name that is there is not added; it is among `names` already.
      constructor
      · rintro (hnames | hrest)
        · exact .inl hnames
        · exact .inr (.inr hrest)
      · rintro (hnames | rfl | hrest)
        · exact .inl hnames
        · exact .inl hfirst
        · exact .inr hrest
    · rw [if_neg (by simpa using hfirst), List.mem_append, List.mem_singleton, or_assoc]

/-- The names bound to the length of an array are those that the text of some unit binds. -/
theorem mem_lengthNames_iff {array name : String} :
    name ∈ lengthNames units array ↔ ∃ code ∈ codesOf units, name ∈ boundLengths array code := by
  rw [lengthNames, mem_foldl_distinct, List.mem_flatMap]
  simp only [List.mem_filter]
  constructor
  · rintro (hnil | ⟨unit, ⟨hunit, hfinds⟩, hbound⟩)
    · exact absurd hnil List.not_mem_nil
    · refine ⟨unit.code, ⟨unit, hunit, rfl⟩, ?_⟩
      rw [boundLengths, if_pos hfinds]
      exact hbound
  · rintro ⟨_, ⟨unit, hunit, rfl⟩, hbound⟩
    rw [boundLengths] at hbound
    by_cases hfinds : (lengthBinding array).finds unit.code = true
    · rw [if_pos hfinds] at hbound
      exact .inr ⟨unit, ⟨hunit, hfinds⟩, hbound⟩
    · rw [if_neg hfinds] at hbound
      exact absurd hbound List.not_mem_nil

/-- More texts bind more names. -/
theorem lengthNames_subset (h : codesOf units ⊆ codesOf units') (array : String) :
    lengthNames units array ⊆ lengthNames units' array := by
  intro name hname
  obtain ⟨code, hcode, hbound⟩ := mem_lengthNames_iff.mp hname
  exact mem_lengthNames_iff.mpr ⟨code, h hcode, hbound⟩

end TokenAudit
