import TokenAudit.Code.Declaration
import TokenAudit.Code.Token
import TokenAudit.Proofs.Text.Collapse

/-!
# Words among tokens

Tokens and declared names are told by different classes of characters: names are made of ASCII only,
words of tokens of letters and numbers of every script. Both end at every blank, and a name is
always one word.

## Main results

* `Token.isWordPart_of_isBlank`, `Token.isWordPart_of_isNamePart`: how the classes lie to each
  other.
* `Token.restarts_scanFrom_isBlank`: at a blank the scan starts anew.
* `Token.scan_append`: a word at the start of a text is its first token.
-/

namespace TokenAudit.Token

open Text Unicode

/-! ## Classes -/

/-- The code points of blanks beyond ASCII. -/
def wideBlanks : List Nat :=
  [0x85, 0xA0, 0x1680, 0x2000, 0x2001, 0x2002, 0x2003, 0x2004, 0x2005, 0x2006, 0x2007, 0x2008,
    0x2009, 0x200A, 0x2028, 0x2029, 0x202F, 0x205F, 0x3000]

theorem mem_wideBlanks_of_isBlank {c : Char} (hc : isBlank c = true) (hwide : ¬c.toNat < 0x80) :
    c.toNat ∈ wideBlanks := by
  simp [isBlank, wideBlanks, Char.le_def, UInt32.le_iff_toNat_le, Char.ext_iff,
    ← UInt32.toNat_inj] at hc hwide ⊢
  omega

/-- Blanks are neither letters nor numbers of any script. -/
theorem isAlphanumeric_of_isBlank {c : Char} (hc : isBlank c = true) :
    isAlphanumeric c = false := by
  by_cases hascii : c.toNat < 0x80
  · rw [isAlphanumeric, if_pos hascii]
    simp [isBlank, isAsciiLetter, isAsciiDigit, Char.le_def, UInt32.le_iff_toNat_le, Char.ext_iff,
      ← UInt32.toNat_inj] at hc hascii ⊢
    omega
  · have htables : ∀ code ∈ wideBlanks,
        (alphabeticTable.contains code || numericTable.contains code) = false := by
      decide +kernel
    rw [isAlphanumeric, if_neg hascii]
    exact htables _ (mem_wideBlanks_of_isBlank hc hascii)

/-- Blanks are no parts of words. -/
theorem isWordPart_of_isBlank {c : Char} (hc : isBlank c = true) : isWordPart c = false := by
  have hmarks : c ≠ '_' ∧ c ≠ '$' := by
    constructor
    · rintro rfl
      cases hc
    · rintro rfl
      cases hc
  simp [isWordPart, isAlphanumeric_of_isBlank hc, hmarks]

/-- Parts of names are parts of words. -/
theorem isWordPart_of_isNamePart {c : Char} (hc : isNamePart c = true) : isWordPart c = true := by
  have hascii : c.toNat < 0x80 := by
    simp [isNamePart, isNameStart, isAsciiLetter, isAsciiDigit, Char.le_def,
      UInt32.le_iff_toNat_le, Char.ext_iff, ← UInt32.toNat_inj] at hc ⊢
    omega
  rw [isWordPart, isAlphanumeric, if_pos hascii]
  simp only [isNamePart, isNameStart, Bool.or_eq_true] at hc ⊢
  tauto

/-- No name starts with a digit. -/
theorem isAsciiDigit_of_isNameStart {c : Char} (hc : isNameStart c = true) :
    isAsciiDigit c = false := by
  simp [isNameStart, isAsciiLetter, isAsciiDigit, Char.le_def, UInt32.le_iff_toNat_le,
    Char.ext_iff, ← UInt32.toNat_inj] at hc ⊢
  omega

/-- A word that starts like a name is no number. -/
theorem ofWord_of_isNameStart {word : List Char} (h : word.head?.any isNameStart = true) :
    ofWord word = ident word := by
  cases word with
  | nil => cases h
  | cons c rest =>
    rw [ofWord, List.head?_cons, Option.any_some, isAsciiDigit_of_isNameStart h]
    rfl

/-! ## Scans -/

/-- At a blank the word before it ends. -/
theorem restarts_scanFrom_isBlank :
    Restarts isBlank scanFrom [] fun word tokens => scanFrom word [] ++ tokens where
  nil _ := (List.append_nil _).symm
  cons word c rest hc := by
    rw [scanFrom, scanFrom, if_neg (by simp [isWordPart_of_isBlank hc])]
    simp only [hc, if_true]
    split <;> rfl
  start tokens := List.nil_append tokens

/-- Blanks in front of a text have no tokens. -/
theorem scan_blanks_append {blanks : List Char} (hblanks : ∀ c ∈ blanks, isBlank c = true)
    (text : List Char) : scan (blanks ++ text) = scan text := by
  by_cases hne : blanks = []
  · rw [hne, List.nil_append]
  · exact restarts_scanFrom_isBlank.gap_append hne hblanks [] text

/-- Parts of a word go on with it. -/
theorem scanFrom_append {part : List Char} (hpart : ∀ c ∈ part, isWordPart c = true)
    (word rest : List Char) :
    scanFrom word (part ++ rest) = scanFrom (part.reverse ++ word) rest := by
  induction part generalizing word with
  | nil => rfl
  | cons c part ih =>
    rw [List.cons_append, scanFrom, if_pos (hpart c List.mem_cons_self),
      ih fun d hd => hpart d (List.mem_cons_of_mem c hd)]
    simp

/-- A word at the start of a text is its first token, if the text goes on with something else. -/
theorem scan_append {word : List Char} (hne : word ≠ [])
    (hword : ∀ c ∈ word, isWordPart c = true) {c : Char} (hc : isWordPart c = false)
    (rest : List Char) : scan (word ++ c :: rest) = ofWord word :: scan (c :: rest) := by
  rw [scan, scan, scanFrom_append hword, List.append_nil, scanFrom, scanFrom]
  simp [hc, hne]

end TokenAudit.Token
