import TokenAudit.Unicode.Property

/-!
# White space in tables and in texts

Scanning decides on blanks by comparisons, written patterns by a table of ranges. Both know the same
characters.

## Main results

* `RangeTable.contains_iff`: what halving a table finds.
* `contains_whiteSpace`: the table of white space has exactly the blanks.
-/

namespace TokenAudit.Unicode

/-! ## Tables -/

/-- The ranges of the table before `hi` stand in ascending order. -/
def RangeTable.AscendsTo (table : RangeTable) (hi : Nat) : Prop :=
  ∀ i j, i < j → j < hi →
    (table.getD i (0, 0)).1 ≤ (table.getD i (0, 0)).2 ∧
      (table.getD i (0, 0)).2 < (table.getD j (0, 0)).1

/-- Halving a table finds a range that holds the code point if there is one. -/
theorem RangeTable.containsBetween_iff {table : RangeTable} {code lo hi : Nat}
    (hascends : table.AscendsTo hi) :
    table.containsBetween code lo hi = true ↔
      ∃ i, lo ≤ i ∧ i < hi ∧ (table.getD i (0, 0)).1 ≤ code ∧ code ≤ (table.getD i (0, 0)).2 := by
  fun_induction containsBetween table code lo hi with
  | case1 lo hi hlt mid first last hmid hbefore ih =>
    -- The code point lies before the middle range, so no range from there on holds it.
    rw [ih fun i j hij hj => hascends i j hij (by omega)]
    refine exists_congr fun i => and_congr_right fun hlo => ?_
    constructor
    · exact fun h => ⟨by omega, h.2⟩
    · rintro ⟨hi', hfirst, hlast⟩
      refine ⟨?_, hfirst, hlast⟩
      rcases Nat.lt_trichotomy i mid with hless | rfl | hgreater
      · exact hless
      · rw [hmid] at hfirst
        omega
      · have horder := hascends mid i hgreater hi'
        rw [hmid] at horder
        omega
  | case2 lo hi hlt mid first last hmid _ hafter ih =>
    -- The code point lies after the middle range, so no range up to there holds it.
    rw [ih hascends]
    refine exists_congr fun i => ?_
    constructor
    · exact fun h => ⟨by omega, h.2⟩
    · rintro ⟨hlo, hi', hfirst, hlast⟩
      refine ⟨?_, hi', hfirst, hlast⟩
      rcases Nat.lt_trichotomy i mid with hless | rfl | hgreater
      · have horder := hascends i mid hless (by omega)
        rw [hmid] at horder
        omega
      · rw [hmid] at hlast
        omega
      · exact hgreater
  | case3 lo hi hlt mid first last hmid hbefore hafter =>
    refine iff_of_true rfl ⟨mid, by omega, by omega, ?_⟩
    rw [hmid]
    omega
  | case4 lo hi hlt => exact iff_of_false Bool.false_ne_true fun ⟨i, hlo, hi', _⟩ => by omega

/-- A table in ascending order contains the code points of its ranges. -/
theorem RangeTable.contains_iff {table : RangeTable} {code : Nat}
    (hascends : table.AscendsTo table.size) :
    table.contains code = true ↔ ∃ range ∈ table, range.1 ≤ code ∧ code ≤ range.2 := by
  rw [contains, containsBetween_iff hascends]
  constructor
  · rintro ⟨i, _, hi, hcode⟩
    rw [Array.getD_eq_getD_getElem?, Array.getElem?_eq_getElem hi, Option.getD_some] at hcode
    exact ⟨table[i], Array.getElem_mem hi, hcode⟩
  · rintro ⟨range, hmem, hcode⟩
    obtain ⟨i, hi, rfl⟩ := Array.mem_iff_getElem.mp hmem
    refine ⟨i, Nat.zero_le i, hi, ?_⟩
    rwa [Array.getD_eq_getD_getElem?, Array.getElem?_eq_getElem hi, Option.getD_some]

/-! ## White space -/

/-- The ranges of white space. -/
def whiteSpaceRanges : List (Nat × Nat) :=
  [(0x9, 0xD), (0x20, 0x20), (0x85, 0x85), (0xA0, 0xA0), (0x1680, 0x1680), (0x2000, 0x200A),
    (0x2028, 0x2029), (0x202F, 0x202F), (0x205F, 0x205F), (0x3000, 0x3000)]

theorem whiteSpace_eq : whiteSpace = ⟨whiteSpaceRanges.toArray⟩ := by
  have hread : CodeSet.readRanges []
      "9-D 20 85 A0 1680 2000-200A 2028-2029 202F 205F 3000".toList = whiteSpaceRanges := by
    decide +kernel
  rw [whiteSpace, CodeSet.ofText, CodeSet.ofLines, List.flatMap_singleton, hread, CodeSet.ofRanges,
    List.mergeSort_of_pairwise (by decide)]
  rfl

/-- The table of white space has exactly the blanks. -/
theorem contains_whiteSpace (c : Char) : whiteSpace.contains c.toNat = isBlank c := by
  have hascends : RangeTable.AscendsTo whiteSpaceRanges.toArray whiteSpaceRanges.toArray.size := by
    have hdecide : ∀ j < 10, ∀ i < j,
        (whiteSpaceRanges.toArray.getD i (0, 0)).1 ≤ (whiteSpaceRanges.toArray.getD i (0, 0)).2 ∧
          (whiteSpaceRanges.toArray.getD i (0, 0)).2 <
            (whiteSpaceRanges.toArray.getD j (0, 0)).1 := by
      decide
    exact fun i j hij hj => hdecide j hj i hij
  rw [whiteSpace_eq, CodeSet.contains, Bool.eq_iff_iff, RangeTable.contains_iff hascends]
  simp [whiteSpaceRanges, isBlank, Char.le_def, UInt32.le_iff_toNat_le, Char.ext_iff,
    ← UInt32.toNat_inj]
  omega

end TokenAudit.Unicode
