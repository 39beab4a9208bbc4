import Mathlib.Data.List.Infix
import TokenAudit.Code.Declaration
import TokenAudit.Proofs.Text.Offset

/-!
# The search for declarations

The search goes through a text from left to right. It passes over text in which no keyword stands,
and it steps over each header that it reads as a whole.

## Main definitions

* `Filler`: text that the search passes over, whatever comes next.

## Main results

* `declarationsFrom_filler`: the search finds nothing in a filler.
* `declarationsFrom_header`: the search lists the function of a header and goes on after the header.
-/

namespace TokenAudit

open Text Unicode

/-- Text with no keyword in it, from whose end no word runs on. -/
structure Filler where
  /-- The text. -/
  chars : List Char
  /-- The keyword does not occur. -/
  free : ¬Header.keyword <:+: chars
  /-- The last character, if there is one, is no part of a word. -/
  ends : ∀ c ∈ chars.getLast?, isWord c = false

namespace Filler

/-- The filler without its first character. -/
def tail {c : Char} {rest : List Char} (filler : Filler) (h : filler.chars = c :: rest) :
    Filler where
  chars := rest
  free hinfix := filler.free (h ▸ hinfix.trans (List.suffix_cons c rest).isInfix)
  ends := by
    intro last hlast
    refine filler.ends last ?_
    rw [h, List.getLast?_cons, Option.mem_def.mp hlast]
    rfl

/-- A filler keeps a word from running on. -/
theorem lastBefore_any_isWord (filler : Filler) {before : Option Char}
    (hbefore : before.any isWord = false) :
    (lastBefore before filler.chars).any isWord = false := by
  rw [lastBefore]
  cases hlast : filler.chars.getLast? with
  | none => exact hbefore
  | some c => exact filler.ends c hlast

end Filler

/-- The keyword is a word. -/
theorem isWord_of_mem_keyword {c : Char} (h : c ∈ Header.keyword) : isWord c = true := by
  have hall : Header.keyword.all isWord = true := by decide
  exact List.all_eq_true.mp hall c h

/-- A character that is no part of a word does not complete a keyword. -/
theorem not_keyword_infix_concat {text : List Char} {c : Char}
    (hfree : ¬Header.keyword <:+: text) (hc : isWord c = false) :
    ¬Header.keyword <:+: text ++ [c] := by
  intro hinfix
  rcases List.infix_concat_iff.mp hinfix with hsuffix | hinside
  · have hlast : c ∈ Header.keyword := by
      obtain ⟨front, hfront⟩ := hsuffix
      have hends := congrArg List.getLast? hfront
      rw [List.getLast?_append, List.getLast?_concat] at hends
      exact List.mem_of_getLast? hends
    rw [isWord_of_mem_keyword hlast] at hc
    cases hc
  · exact hfree hinside

/-- No keyword starts in a filler, even if it were to end in the text that follows. -/
theorem Filler.not_keyword_prefix {filler : Filler} (hne : filler.chars ≠ [])
    (after : List Char) : ¬Header.keyword <+: filler.chars ++ after := by
  intro hkeyword
  rcases List.prefix_or_prefix_of_prefix hkeyword (List.prefix_append filler.chars after) with
    hinside | hacross
  · exact filler.free hinside.isInfix
  · -- The keyword would run over the last character of the filler, which is no part of a word.
    have hlast := List.getLast?_eq_some_getLast hne
    have hword := isWord_of_mem_keyword (hacross.subset (List.getLast_mem hne))
    rw [filler.ends _ hlast] at hword
    cases hword

/-- A header starts with the keyword. -/
theorem Header.read?_eq_none {text : List Char} (h : ¬keyword <+: text) : read? text = none := by
  rw [read?]
  have hguard : keyword.isPrefixOf text = false := by
    rwa [← Bool.not_eq_true, List.isPrefixOf_iff_prefix]
  rw [hguard]
  rfl

/-- The search finds nothing in a filler. -/
theorem declarationsFrom_filler (filler : Filler) (before : Option Char) (offset : Nat)
    (after : List Char) :
    declarationsFrom 0 before offset (filler.chars ++ after) =
      declarationsFrom 0 (lastBefore before filler.chars) (offset + byteLength filler.chars)
        after := by
  induction h : filler.chars generalizing filler before offset with
  | nil => simp
  | cons c rest ih =>
    have hread : Header.read? (c :: (rest ++ after)) = none := by
      refine Header.read?_eq_none ?_
      have hne : filler.chars ≠ [] := by simp [h]
      simpa [h] using filler.not_keyword_prefix hne after
    -- With or without a word before it, the character is passed over.
    have hstep : declarationsFrom 0 before offset (c :: (rest ++ after)) =
        declarationsFrom 0 (some c) (offset + c.utf8Size) (rest ++ after) := by
      rw [declarationsFrom, hread]
      exact ite_self _
    rw [List.cons_append, hstep, ih (filler.tail h) _ _ rfl, lastBefore_cons, byteLength_cons,
      Nat.add_assoc]

/-- Characters of a header that has been read are stepped over. -/
theorem declarationsFrom_skip (skipped : List Char) (before : Option Char) (offset : Nat)
    (after : List Char) :
    declarationsFrom skipped.length before offset (skipped ++ after) =
      declarationsFrom 0 (lastBefore before skipped) (offset + byteLength skipped) after := by
  induction skipped generalizing before offset with
  | nil => simp
  | cons c rest ih =>
    rw [List.length_cons, List.cons_append, declarationsFrom, ih, lastBefore_cons,
      byteLength_cons, Nat.add_assoc]

/-- The search lists the function of a header and goes on after the header. -/
theorem declarationsFrom_header {header : Header} (hne : header.chars ≠ [])
    (hread : Header.read? (header.chars ++ header.after) = some header) {before : Option Char}
    (hbefore : before.any isWord = false) (offset : Nat) :
    declarationsFrom 0 before offset (header.chars ++ header.after) =
      (header.function? offset).toList ++
        declarationsFrom 0 (lastBefore before header.chars)
          (offset + byteLength header.chars) header.after := by
  obtain ⟨c, rest, hchars⟩ := List.exists_cons_of_ne_nil hne
  have hstep : declarationsFrom 0 before offset (c :: (rest ++ header.after)) =
      (header.function? offset).toList ++ declarationsFrom (header.chars.length - 1) (some c)
        (offset + c.utf8Size) (rest ++ header.after) := by
    rw [hchars, List.cons_append] at hread
    rw [declarationsFrom, hbefore, hread]
    rfl
  have hlength : header.chars.length - 1 = rest.length := by simp [hchars]
  rw [hlength, declarationsFrom_skip] at hstep
  rw [hchars, List.cons_append, hstep, lastBefore_cons, byteLength_cons, Nat.add_assoc]

end TokenAudit
