import TokenAudit.Proofs.Text.Words
import TokenAudit.Selector

/-!
# Selectors in bytecode

Bytecode is handed over as a text of digits, maybe marked as such and with blanks around it. A scan
takes off the blanks and the mark, and looks for the digits of each known selector. Digits are
neither blank nor part of a mark, so what is taken off never belongs to a selector: a scan sees a
selector wherever its digits stand in the text.

## Main definitions

* `Writes`: digits write a string of bytes.
* `Surrounded`: a text is another one with blanks and maybe a mark around it.
* `selectorBytes`: the bytes of an entry's selector.

## Main results

* `Surrounded.infix_iff`: nothing of a selector is lost with what surrounds it.
* `mem_scan_iff`: an entry is reported exactly if its digits stand in the text.
* `scan_reports_selectors`: what a scan of bytecode reports, and of two texts in a row.
-/

namespace TokenAudit.Selector

open Text
open Unicode (isBlank hexNumber)

/-! ## Written bytes -/

/-- The digits write the code: two for each byte, the high one first, in either case. -/
def Writes (digits : List Char) (code : List UInt8) : Prop :=
  digits.map lowerChar = code.flatMap Hash.hexByte

/-- The bytes that pairs of digits write. -/
def bytesOf : List Char → List UInt8
  | high :: low :: rest => UInt8.ofNat (hexNumber [high, low]) :: bytesOf rest
  | _ => []

/-- The bytes of an entry's selector. -/
def selectorBytes (e : SelectorEntry) : List UInt8 :=
  bytesOf (digits e)

/-- Every known selector has four bytes, and its eight digits write them in lower case. -/
theorem digits_of_mem_catalog : ∀ e ∈ catalog, (selectorBytes e).length = 4 ∧
    (digits e).length = 8 ∧ (digits e).map lowerChar = digits e ∧
    digits e = (selectorBytes e).flatMap Hash.hexByte := by
  decide

/-- Bytes that stand in a row in some code have their digits in a row in the written code. -/
theorem Writes.infix {written : List Char} {part code : List UInt8} (h : Writes written code)
    (hpart : part <:+: code) : part.flatMap Hash.hexByte <:+: written.map lowerChar := by
  obtain ⟨before, after, rfl⟩ := hpart
  rw [h, List.flatMap_append, List.flatMap_append]
  exact List.infix_append _ _ _

/-! ## What surrounds the digits -/

/-- The marks of a text of digits, and none. -/
def marks : List (List Char) :=
  [[], ['0', 'x'], ['0', 'X']]

/-- The text is `inner` with maybe a mark before it and blanks around both. -/
def Surrounded (text inner : List Char) : Prop :=
  ∃ lead mark trail, text = lead ++ mark ++ inner ++ trail ∧ (∀ c ∈ lead, isBlank c = true) ∧
    mark ∈ marks ∧ ∀ c ∈ trail, isBlank c = true

/-- A block of at least two characters that are neither blank nor the letter of a mark. -/
structure Solid (part : List Char) : Prop where
  two_le : 2 ≤ part.length
  not_blank : ∀ c ∈ part, isBlank c = false
  not_letter : 'x' ∉ part

theorem solid_digits {e : SelectorEntry} (he : e ∈ catalog) : Solid (digits e) := by
  have hall : ∀ e ∈ catalog, 2 ≤ (digits e).length ∧
      (digits e).all (fun c => !isBlank c) = true ∧ 'x' ∉ digits e := by
    decide
  obtain ⟨hlength, hblank, hletter⟩ := hall e he
  exact ⟨hlength, fun c hc => by simpa using List.all_eq_true.mp hblank c hc, hletter⟩

namespace Solid

variable {part : List Char}

theorem ne_nil (h : Solid part) : part ≠ [] := by
  rintro rfl
  cases h.two_le

/-- A solid block does not start in blanks. -/
theorem infix_blanks_append (h : Solid part) {gap : List Char} (hgap : ∀ c ∈ gap, isBlank c = true)
    (rest : List Char) : part <:+: gap ++ rest ↔ part <:+: rest := by
  refine ⟨fun hfound => ?_, fun hfound => hfound.trans (List.suffix_append gap rest).isInfix⟩
  induction gap with
  | nil => exact hfound
  | cons c gap ih =>
    refine ih (fun d hd => hgap d (List.mem_cons_of_mem c hd)) ?_
    rcases List.infix_cons_iff.mp hfound with hfront | hrest
    · obtain ⟨tail, rfl, -⟩ := (List.prefix_cons_iff.mp hfront).resolve_left h.ne_nil
      have hblank := hgap c List.mem_cons_self
      rw [h.not_blank c List.mem_cons_self] at hblank
      cases hblank
    · exact hrest

theorem reverse (h : Solid part) : Solid part.reverse :=
  ⟨by simpa using h.two_le, fun c hc => h.not_blank c (List.mem_reverse.mp hc),
    fun hc => h.not_letter (List.mem_reverse.mp hc)⟩

/-- Nor does it end in blanks. -/
theorem infix_append_blanks (h : Solid part) {gap : List Char} (hgap : ∀ c ∈ gap, isBlank c = true)
    (rest : List Char) : part <:+: rest ++ gap ↔ part <:+: rest := by
  rw [← List.reverse_infix, List.reverse_append,
    h.reverse.infix_blanks_append fun c hc => hgap c (List.mem_reverse.mp hc), List.reverse_infix]

/-- Nor does it start in a mark. -/
theorem infix_mark_append (h : Solid part) {mark : List Char} (hmark : mark ∈ marks)
    (rest : List Char) : part <:+: mark.map lowerChar ++ rest ↔ part <:+: rest := by
  have hlower : mark.map lowerChar = [] ∨ mark.map lowerChar = ['0', 'x'] := by
    revert mark
    decide
  rcases hlower with hlower | hlower <;> rw [hlower]
  · rw [List.nil_append]
  · refine ⟨fun hfound => ?_, fun hfound => hfound.trans (List.suffix_append _ rest).isInfix⟩
    -- A block of two characters or more that starts at the digit has the letter.
    rcases List.infix_cons_iff.mp hfound with hfront | hfound
    · obtain ⟨tail, rfl, htail⟩ := (List.prefix_cons_iff.mp hfront).resolve_left h.ne_nil
      rcases List.prefix_cons_iff.mp htail with rfl | ⟨tail, rfl, -⟩
      · exact absurd h.two_le (by decide)
      · exact absurd (by simp) h.not_letter
    · rcases List.infix_cons_iff.mp hfound with hfront | hrest
      · obtain ⟨tail, rfl, -⟩ := (List.prefix_cons_iff.mp hfront).resolve_left h.ne_nil
        exact absurd List.mem_cons_self h.not_letter
      · exact hrest

end Solid

/-- Nothing of a solid block is lost with what surrounds a text. -/
theorem Surrounded.infix_iff {text inner part : List Char} (h : Surrounded text inner)
    (hpart : Solid part) : part <:+: text.map lowerChar ↔ part <:+: inner.map lowerChar := by
  obtain ⟨lead, mark, trail, rfl, hlead, hmark, htrail⟩ := h
  have hlower : ∀ gap : List Char, (∀ c ∈ gap, isBlank c = true) → gap.map lowerChar = gap :=
    fun gap hgap =>
      (List.map_congr_left fun c hc => lowerChar_of_isBlank (hgap c hc)).trans (List.map_id' gap)
  rw [List.map_append, List.map_append, List.map_append, hlower lead hlead, hlower trail htrail,
    hpart.infix_append_blanks htrail, List.append_assoc, hpart.infix_blanks_append hlead,
    hpart.infix_mark_append hmark]

/-! ## Scans -/

/-- Without its mark, a text is in lower case. -/
theorem exists_mark_bareHex (text : List Char) :
    ∃ mark ∈ marks, ∃ rest, text = mark ++ rest ∧ bareHex text = rest.map lowerChar := by
  fun_cases bareHex text with
  | case1 rest => exact ⟨['0', 'x'], by decide, rest, rfl, rfl⟩
  | case2 rest => exact ⟨['0', 'X'], by decide, rest, rfl, rfl⟩
  | case3 _ _ => exact ⟨[], by decide, text, rfl, rfl⟩

/-- What a scan looks at is the text without what surrounds it, in lower case. -/
theorem exists_surrounded_bareHex (text : List Char) :
    ∃ inner, Surrounded text inner ∧ bareHex (trimChars text) = inner.map lowerChar := by
  obtain ⟨lead, trail, htext, hlead, htrail⟩ := exists_blanks_trimChars text
  obtain ⟨mark, hmark, inner, htrimmed, hbare⟩ := exists_mark_bareHex (trimChars text)
  refine ⟨inner, ⟨lead, mark, trail, ?_, hlead, hmark, htrail⟩, hbare⟩
  rw [List.append_assoc lead, ← htrimmed]
  exact htext

/-- An entry is reported exactly if its digits stand in the text, in any case. -/
theorem mem_scan_iff {text : String} {e : SelectorEntry} :
    e ∈ scan text ↔ e ∈ catalog ∧ digits e <:+: text.toList.map lowerChar := by
  obtain ⟨inner, hinner, hbare⟩ := exists_surrounded_bareHex text.toList
  have hscan : e ∈ scan text ↔ e ∈ catalog ∧ digits e <:+: inner.map lowerChar := by
    rw [scan, hbare]
    split
    · next hempty =>
      rw [List.isEmpty_iff.mp hempty, List.infix_nil]
      exact iff_of_false List.not_mem_nil fun h => (solid_digits h.1).ne_nil h.2
    · rw [List.mem_filter, hasInfix_iff]
  rw [hscan]
  exact and_congr_right fun he => (hinner.infix_iff (solid_digits he)).symm

/-- The entries are reported in the order of the catalog. -/
theorem scan_sublist (text : String) : (scan text).Sublist catalog := by
  rw [scan]
  split
  · exact List.nil_sublist _
  · exact List.filter_sublist

/-- What a scan reports. If a text is some code in digits, with blanks and a mark around them, then
the entries stand in the order of the catalog and none stands twice. Every entry is among them whose
selector's four bytes stand in a row in the code. Of each entry that is among them the eight digits
stand at some offset of the digits of the code. For any two texts, what is reported for one of them
is reported for both in a row. -/
theorem scan_reports_selectors :
    (∀ (code : List UInt8) (written : List Char) (text : String),
      Surrounded text.toList written → Writes written code →
      (scan text).Sublist catalog ∧ (scan text).Nodup ∧
      (∀ e ∈ catalog, (selectorBytes e).length = 4 ∧ Writes (digits e) (selectorBytes e) ∧
        (selectorBytes e <:+: code → e ∈ scan text)) ∧
      ∀ e ∈ scan text, (digits e).length = 8 ∧
        ∃ offset, ((written.map lowerChar).drop offset).take 8 = digits e) ∧
    ∀ (first second : String) (e : SelectorEntry),
      e ∈ scan first ∨ e ∈ scan second → e ∈ scan (first ++ second) := by
  refine ⟨fun code written text htext hcode =>
    ⟨scan_sublist text, ?_, fun e he => ?_, fun e he => ?_⟩, fun first second e he => ?_⟩
  · have hcatalog : catalog.Nodup := by decide
    exact hcatalog.sublist (scan_sublist text)
  · obtain ⟨hbytes, _, hlower, hdigits⟩ := digits_of_mem_catalog e he
    refine ⟨hbytes, hlower.trans hdigits, fun hfound => mem_scan_iff.mpr ⟨he, ?_⟩⟩
    rw [htext.infix_iff (solid_digits he), hdigits]
    exact hcode.infix hfound
  · obtain ⟨hcatalog, hfound⟩ := mem_scan_iff.mp he
    obtain ⟨_, hlength, _⟩ := digits_of_mem_catalog e hcatalog
    obtain ⟨before, after, hwritten⟩ := (htext.infix_iff (solid_digits hcatalog)).mp hfound
    refine ⟨hlength, before.length, ?_⟩
    rw [← hwritten, List.append_assoc, List.drop_left, ← hlength, List.take_left]
  · rw [mem_scan_iff, String.toList_append, List.map_append]
    rcases he with he | he
    · obtain ⟨hcatalog, hfound⟩ := mem_scan_iff.mp he
      exact ⟨hcatalog, hfound.trans (List.prefix_append _ _).isInfix⟩
    · obtain ⟨hcatalog, hfound⟩ := mem_scan_iff.mp he
      exact ⟨hcatalog, hfound.trans (List.suffix_append _ _).isInfix⟩

/-- A selector in code of six bytes, in mixed case behind a mark, with blanks around it. -/
theorem scan_reports_selectors_marked :
    ∃ e ∈ scan " 0X00F242432aFf\n", e.signature =
      "safeTransferFrom(address,address,uint256,uint256,bytes)" := by
  have hwritten : Writes "00F242432aFf".toList [0x00, 0xf2, 0x42, 0x43, 0x2a, 0xff] := by
    unfold Writes
    decide
  have htext : Surrounded " 0X00F242432aFf\n".toList "00F242432aFf".toList :=
    ⟨[' '], ['0', 'X'], ['\n'], by decide, by simp [isBlank], by decide, by simp [isBlank]⟩
  obtain ⟨e, he⟩ : ∃ e, catalog.head? = some e := ⟨_, rfl⟩
  have hmem : e ∈ catalog := List.mem_of_mem_head? he
  obtain ⟨-, -, hfinds, -⟩ := scan_reports_selectors.1 _ _ _ htext hwritten
  refine ⟨e, (hfinds e hmem).2.2 ?_, ?_⟩
  · cases he
    decide
  · cases he
    rfl

end TokenAudit.Selector
