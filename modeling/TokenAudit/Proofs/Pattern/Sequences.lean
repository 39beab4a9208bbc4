import TokenAudit.Proofs.Pattern.Language

/-!
# Sequences of plain patterns

A pattern is plain if it does not look at what stands around its pieces. Rules are mostly sequences
of texts and blanks, which are plain, so what a rule finds is a piece that spells its parts one
after the other, anywhere in a text.

## Main definitions

* `Pattern.Plain`: whether a pattern describes a piece does not depend on its surroundings.
* `Pattern.Spells`: a piece is made of pieces of the parts, in order.

## Main results

* `Pattern.isMatch_iff`: a search succeeds exactly if a piece stands somewhere.
* `Pattern.reads_sequence_iff`: the pieces of a sequence of plain patterns.
* `Pattern.isMatch_sequence_iff`: a sequence of plain patterns is found exactly if a piece that
  spells it occurs in the text.
-/

namespace TokenAudit.Pattern

open Text
open Unicode (isBlank)

/-! ## Searching -/

/-- A search succeeds exactly if a piece that the pattern describes stands somewhere. -/
theorem isMatch_iff {p : Pattern} {text : List Char} :
    p.isMatch text = true ↔ ∃ before piece rest, text = before ++ (piece ++ rest) ∧
      p.Reads before.getLast? piece rest := by
  constructor
  · intro h
    obtain ⟨found, hfound⟩ := Option.isSome_iff_exists.mp h
    obtain ⟨before, piece, rest, htext, _, _, hreads, _⟩ := find?_eq_some_start hfound
    exact ⟨before, piece, rest, htext, hreads⟩
  · rintro ⟨before, piece, rest, htext, hreads⟩
    rw [isMatch, Option.isSome_iff_ne_none]
    exact fun hnone => find?_eq_none_iff.mp hnone before _ htext ⟨piece, rest, rfl, hreads⟩

/-! ## Plain patterns -/

/-- Whether the pattern describes a piece does not depend on what stands around it. -/
def Plain (p : Pattern) : Prop :=
  ∀ before piece rest, p.Reads before piece rest ↔ p.Reads none piece []

theorem plain_lit (s : String) : Plain (lit s) :=
  fun _ _ _ => Iff.rfl

theorem plain_litAnyCase (s : String) : Plain (litAnyCase s) :=
  fun _ _ _ => Iff.rfl

theorem plain_blanks : Plain blanks :=
  fun _ _ _ => Iff.rfl

theorem Plain.seq {p q : Pattern} (hp : Plain p) (hq : Plain q) : Plain (seq p q) := by
  intro before piece rest
  simp only [Reads]
  refine exists_congr fun front => exists_congr fun back => and_congr_right fun _ => ?_
  rw [hp before, hp none front (back ++ []), hq (lastBefore before front),
    hq (lastBefore none front)]

/-- The piece is made of pieces of the patterns, in order. -/
def Spells : List Pattern → List Char → Prop
  | [], piece => piece = []
  | p :: rest, piece => ∃ front back, piece = front ++ back ∧ p.Reads none front [] ∧ Spells rest back

@[simp]
theorem spells_nil {piece : List Char} : Spells [] piece ↔ piece = [] :=
  Iff.rfl

@[simp]
theorem spells_lit_cons {s : String} {rest : List Pattern} {piece : List Char} :
    Spells (lit s :: rest) piece ↔ ∃ back, piece = s.toList ++ back ∧ Spells rest back := by
  constructor
  · rintro ⟨_, back, rfl, rfl, hback⟩
    exact ⟨back, rfl, hback⟩
  · rintro ⟨back, rfl, hback⟩
    exact ⟨_, back, rfl, rfl, hback⟩

@[simp]
theorem spells_blanks_cons {rest : List Pattern} {piece : List Char} :
    Spells (blanks :: rest) piece ↔ ∃ gap, (∀ c ∈ gap, isBlank c = true) ∧
      ∃ back, piece = gap ++ back ∧ Spells rest back := by
  constructor
  · rintro ⟨gap, back, rfl, hgap, hback⟩
    exact ⟨gap, hgap, back, rfl, hback⟩
  · rintro ⟨gap, hgap, back, rfl, hback⟩
    exact ⟨gap, back, rfl, hgap, hback⟩

/-- Each of the patterns has its piece. -/
theorem Spells.exists_reads {parts : List Pattern} {piece : List Char} (h : Spells parts piece)
    {p : Pattern} (hp : p ∈ parts) : ∃ part, p.Reads none part [] ∧ part <:+: piece := by
  induction parts generalizing piece with
  | nil => cases hp
  | cons q parts ih =>
    obtain ⟨front, back, rfl, hfront, hback⟩ := h
    rcases List.mem_cons.mp hp with rfl | hp
    · exact ⟨front, hfront, (List.prefix_append front back).isInfix⟩
    · obtain ⟨part, hreads, hinfix⟩ := ih hback hp
      exact ⟨part, hreads, hinfix.trans (List.suffix_append front back).isInfix⟩

/-- The pieces of a sequence of plain patterns. -/
theorem reads_sequence_iff {p : Pattern} {parts : List Pattern} (hp : Plain p)
    (hparts : ∀ q ∈ parts, Plain q) {before : Option Char} {piece rest : List Char} :
    (sequence (p :: parts)).Reads before piece rest ↔ Spells (p :: parts) piece := by
  rw [sequence]
  -- The parts are put together from the front, so the first pattern grows along the induction.
  induction parts generalizing p with
  | nil =>
    rw [List.foldl_nil, hp before]
    exact ⟨fun h => ⟨piece, [], by simp, h, rfl⟩, by rintro ⟨_, _, rfl, h, rfl⟩; simpa using h⟩
  | cons q parts ih =>
    obtain ⟨hq, hrest⟩ := List.forall_mem_cons.mp hparts
    rw [List.foldl_cons, ih (hp.seq hq) hrest]
    constructor
    · rintro ⟨_, back, rfl, ⟨first, second, rfl, hfirst, hsecond⟩, hback⟩
      exact ⟨first, second ++ back, by simp, (hp _ _ _).mp hfirst, second, back, rfl,
        (hq _ _ _).mp hsecond, hback⟩
    · rintro ⟨first, _, rfl, hfirst, second, back, rfl, hsecond, hback⟩
      exact ⟨first ++ second, back, by simp, ⟨first, second, rfl, (hp _ _ _).mpr hfirst,
        (hq _ _ _).mpr hsecond⟩, hback⟩

/-- A sequence of plain patterns is found exactly if a piece that spells it occurs. -/
theorem isMatch_sequence_iff {parts : List Pattern} (hplain : ∀ p ∈ parts, Plain p)
    {text : List Char} :
    (sequence parts).isMatch text = true ↔ ∃ piece, Spells parts piece ∧ piece <:+: text := by
  have hreads : ∀ before piece rest,
      (sequence parts).Reads before piece rest ↔ Spells parts piece := by
    intro before piece rest
    cases parts with
    | nil => exact Iff.rfl
    | cons p parts =>
      obtain ⟨hp, hparts⟩ := List.forall_mem_cons.mp hplain
      exact reads_sequence_iff hp hparts
  simp only [isMatch_iff, hreads]
  constructor
  · rintro ⟨before, piece, rest, rfl, hspells⟩
    exact ⟨piece, hspells, before, rest, by simp⟩
  · rintro ⟨piece, hspells, before, rest, rfl⟩
    exact ⟨before, piece, rest, by simp, hspells⟩

end TokenAudit.Pattern
