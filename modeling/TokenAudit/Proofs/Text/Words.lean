import Mathlib.Data.List.TakeWhile
import TokenAudit.Text.Words

/-!
# Words, trimmed text and lists with commas

A blank divides the words before it from those after it, and everything about words follows from
that one equation. Joining and splitting at a character are the library's, so that what is known of
those holds here.

## Main results

* `classInduction`: a text is followed from one character outside a class to the next.
* `wordsOf_append_blank`: the words of a text are those before a blank and those after it.
* `flatten_wordsOf`: the words of a text are its characters that are not blank.
* `trimChars_append`: blanks around a text are trimmed off.
* `hasInfix_iff`: a block of characters is found where it occurs.
* `joinWith_eq_intercalate`, `splitAt_eq_splitOn`: joining and splitting in terms of the library.
* `lower_lower`: a text in lower case stays as it is.
-/

namespace TokenAudit.Text

open Unicode (isBlank)

/-! ## Texts in parts -/

/-- A text lies in a class, or it is such a text and a character outside the class before a text. -/
theorem classInduction (p : Char → Bool) {motive : List Char → Prop}
    (inside : ∀ part, (∀ c ∈ part, p c = true) → motive part)
    (divide : ∀ part c rest, (∀ d ∈ part, p d = true) → p c = false → motive rest →
      motive (part ++ c :: rest))
    (text : List Char) : motive text := by
  -- By induction on the length: what follows the first character outside the class is shorter.
  induction hlength : text.length using Nat.strong_induction_on generalizing text with
  | _ n ih =>
    have hparts : text.takeWhile p ++ text.dropWhile p = text := List.takeWhile_append_dropWhile
    have hpart : ∀ c ∈ text.takeWhile p, p c = true := List.all_eq_true.mp List.all_takeWhile
    cases hdrop : text.dropWhile p with
    | nil =>
      rw [hdrop, List.append_nil] at hparts
      exact hparts ▸ inside _ hpart
    | cons c rest =>
      have hdivider := List.head?_dropWhile_not p text
      rw [hdrop] at hparts hdivider
      have hshorter : rest.length < n := by
        rw [← hlength, ← hparts, List.length_append, List.length_cons]
        omega
      exact hparts ▸ divide _ c rest hpart hdivider (ih _ hshorter rest rfl)

/-! ## Words -/

/-- A separator ends the run before it. -/
theorem splitRuns_append_cons {sep : Char → Bool} {c : Char} (hc : sep c = true)
    (word first second : List Char) :
    splitRuns sep word (first ++ c :: second) =
      splitRuns sep word first ++ splitRuns sep [] second := by
  induction first generalizing word with
  | nil => cases word <;> simp [splitRuns, hc]
  | cons d rest ih =>
    rw [List.cons_append, splitRuns, splitRuns]
    split
    · split
      · exact ih []
      · rw [ih, List.cons_append]
    · exact ih _

/-- Characters that are no separators go on with the run. -/
theorem splitRuns_of_free {sep : Char → Bool} {text : List Char}
    (htext : ∀ c ∈ text, sep c = false) (word : List Char) :
    splitRuns sep word text = if word.reverse ++ text = [] then [] else [word.reverse ++ text] := by
  induction text generalizing word with
  | nil => cases word <;> simp [splitRuns]
  | cons c rest ih =>
    have hc : sep c = false := htext c List.mem_cons_self
    rw [splitRuns, if_neg (by simp [hc]), ih fun d hd => htext d (List.mem_cons_of_mem c hd)]
    simp

/-- The runs hold every character that is no separator. -/
theorem flatten_splitRuns (sep : Char → Bool) (word text : List Char) :
    (splitRuns sep word text).flatten = word.reverse ++ text.filter fun c => !sep c := by
  induction text generalizing word with
  | nil => cases word <;> simp [splitRuns]
  | cons c rest ih =>
    rw [splitRuns]
    cases hc : sep c with
    | true => cases word <;> simp [ih, hc]
    | false => simp [ih, hc]

@[simp] theorem wordsOf_nil : wordsOf [] = [] := rfl

/-- The words of a text are those before a blank and those after it. -/
theorem wordsOf_append_blank {c : Char} (hc : isBlank c = true) (first second : List Char) :
    wordsOf (first ++ c :: second) = wordsOf first ++ wordsOf second :=
  splitRuns_append_cons hc [] first second

/-- A blank in front belongs to no word. -/
theorem wordsOf_cons_blank {c : Char} (hc : isBlank c = true) (text : List Char) :
    wordsOf (c :: text) = wordsOf text :=
  wordsOf_append_blank hc [] text

/-- Blanks in front belong to no word. -/
theorem wordsOf_blanks_append {blanks : List Char} (hblanks : ∀ c ∈ blanks, isBlank c = true)
    (text : List Char) : wordsOf (blanks ++ text) = wordsOf text := by
  induction blanks with
  | nil => rfl
  | cons c rest ih =>
    rw [List.cons_append, wordsOf_cons_blank (hblanks c List.mem_cons_self)]
    exact ih fun d hd => hblanks d (List.mem_cons_of_mem c hd)

/-- A gap of blanks divides the words before it from those after it. -/
theorem wordsOf_append_gap {gap : List Char} (hne : gap ≠ [])
    (hgap : ∀ c ∈ gap, isBlank c = true) (first second : List Char) :
    wordsOf (first ++ (gap ++ second)) = wordsOf first ++ wordsOf second := by
  obtain ⟨c, rest, rfl⟩ := List.exists_cons_of_ne_nil hne
  rw [List.cons_append, wordsOf_append_blank (hgap c List.mem_cons_self),
    wordsOf_blanks_append fun d hd => hgap d (List.mem_cons_of_mem c hd)]

/-- A text without blanks is one word, unless it is empty. -/
theorem wordsOf_of_free {text : List Char} (htext : ∀ c ∈ text, isBlank c = false) :
    wordsOf text = if text = [] then [] else [text] :=
  splitRuns_of_free htext []

/-- The words of a text are its characters that are not blank. -/
theorem flatten_wordsOf (text : List Char) :
    (wordsOf text).flatten = text.filter fun c => !isBlank c :=
  flatten_splitRuns isBlank [] text

/-- A character that is not blank stands in a word. -/
theorem exists_mem_wordsOf {text : List Char} {c : Char} (hmem : c ∈ text)
    (hc : isBlank c = false) : ∃ word ∈ wordsOf text, c ∈ word := by
  rw [← List.mem_flatten, flatten_wordsOf]
  exact List.mem_filter.mpr ⟨hmem, by simp [hc]⟩

/-! ## Trimmed text -/

/-- Blanks in front are trimmed off. -/
theorem trimStartChars_append {blanks : List Char} (hblanks : ∀ c ∈ blanks, isBlank c = true)
    (text : List Char) : trimStartChars (blanks ++ text) = trimStartChars text :=
  List.dropWhile_append_of_pos hblanks

/-- Blanks at the end are trimmed off. -/
theorem trimEndChars_append {blanks : List Char} (hblanks : ∀ c ∈ blanks, isBlank c = true)
    (text : List Char) : trimEndChars (text ++ blanks) = trimEndChars text := by
  rw [trimEndChars, List.reverse_append, List.dropWhile_append_of_pos (by simpa using hblanks)]
  rfl

/-- Blanks around a text are trimmed off. -/
theorem trimChars_append {lead trail : List Char} (hlead : ∀ c ∈ lead, isBlank c = true)
    (htrail : ∀ c ∈ trail, isBlank c = true) (text : List Char) :
    trimChars (lead ++ text ++ trail) = trimChars text := by
  rw [trimChars, List.append_assoc, trimStartChars_append hlead, trimStartChars,
    List.dropWhile_append]
  split
  · next hempty =>
    -- Nothing is left of a blank text, with or without the blanks after it.
    have htext : trimStartChars text = [] := List.isEmpty_iff.mp hempty
    have hnone : trail.dropWhile isBlank = [] := List.dropWhile_eq_nil_iff.mpr htrail
    rw [hnone, trimChars, htext]
  · exact trimEndChars_append htrail _

/-- A text that does not start with a blank keeps its start. -/
theorem trimStartChars_eq_self {text : List Char} (hfirst : ∀ c ∈ text.head?, isBlank c = false) :
    trimStartChars text = text := by
  cases text with
  | nil => rfl
  | cons c rest => exact List.dropWhile_cons_of_neg (by simp [hfirst c rfl])

/-- A text whose ends are not blank is left as it is. -/
theorem trimChars_eq_self {text : List Char} (hfirst : ∀ c ∈ text.head?, isBlank c = false)
    (hlast : ∀ c ∈ text.getLast?, isBlank c = false) : trimChars text = text := by
  -- Read from its end, the text starts with its last character.
  have hend : text.reverse.dropWhile isBlank = text.reverse := by
    rw [← List.head?_reverse] at hlast
    cases hreverse : text.reverse with
    | nil => rfl
    | cons c rest =>
      rw [hreverse] at hlast
      exact List.dropWhile_cons_of_neg (by simp [hlast c rfl])
  rw [trimChars, trimStartChars_eq_self hfirst, trimEndChars, hend, List.reverse_reverse]

/-- A text is its trimmed form with blanks around it. -/
theorem exists_blanks_trimChars (text : List Char) :
    ∃ lead trail, text = lead ++ trimChars text ++ trail ∧ (∀ c ∈ lead, isBlank c = true) ∧
      ∀ c ∈ trail, isBlank c = true := by
  have hstart : text.takeWhile isBlank ++ trimStartChars text = text :=
    List.takeWhile_append_dropWhile
  have hend : trimChars text ++ ((trimStartChars text).reverse.takeWhile isBlank).reverse =
      trimStartChars text := by
    rw [trimChars, trimEndChars, ← List.reverse_append, List.takeWhile_append_dropWhile,
      List.reverse_reverse]
  refine ⟨text.takeWhile isBlank, ((trimStartChars text).reverse.takeWhile isBlank).reverse, ?_,
    List.all_eq_true.mp List.all_takeWhile, fun c hc => ?_⟩
  · rw [List.append_assoc, hend, hstart]
  · exact List.all_eq_true.mp List.all_takeWhile c (List.mem_reverse.mp hc)

/-- Trimmed text is not trimmed any further. -/
theorem trimChars_trimChars (text : List Char) : trimChars (trimChars text) = trimChars text := by
  obtain ⟨lead, trail, htext, hlead, htrail⟩ := exists_blanks_trimChars text
  have hagain := trimChars_append hlead htrail (trimChars text)
  rw [← htext] at hagain
  exact hagain.symm

/-- Trimmed text does not end with a blank. -/
theorem isBlank_getLast?_trimChars {text : List Char} {c : Char}
    (h : (trimChars text).getLast? = some c) : isBlank c = false := by
  rw [trimChars, trimEndChars, List.getLast?_reverse] at h
  have hfirst := List.head?_dropWhile_not isBlank (trimStartChars text).reverse
  rwa [h] at hfirst

/-- Nor does it start with one. -/
theorem isBlank_head?_trimChars {text : List Char} {c : Char}
    (h : (trimChars text).head? = some c) : isBlank c = false := by
  have hstart : trimChars text <+: trimStartChars text := by
    rw [← List.reverse_suffix, trimChars, trimEndChars, List.reverse_reverse]
    exact List.dropWhile_suffix isBlank
  obtain ⟨trail, htrail⟩ := hstart
  have hfirst := List.head?_dropWhile_not isBlank text
  rw [← trimStartChars, ← htrail, List.head?_append, h] at hfirst
  exact hfirst

/-- A text that lies in a class holds no character from outside. -/
theorem count_eq_zero_of_forall {p : Char → Bool} {text : List Char} {c : Char}
    (htext : ∀ d ∈ text, p d = true) (hc : p c = false) : text.count c = 0 := by
  refine List.count_eq_zero.mpr fun hmem => ?_
  rw [htext c hmem] at hc
  cases hc

/-- Trimming keeps every character that is not blank. -/
theorem count_trimChars {c : Char} (hc : isBlank c = false) (text : List Char) :
    (trimChars text).count c = text.count c := by
  obtain ⟨lead, trail, htext, hlead, htrail⟩ := exists_blanks_trimChars text
  have hcount := congrArg (List.count c) htext
  rw [List.count_append, List.count_append, count_eq_zero_of_forall hlead hc,
    count_eq_zero_of_forall htrail hc] at hcount
  omega

/-! ## Blocks of characters -/

/-- A block is found where it occurs. -/
theorem hasInfix_iff {part text : List Char} : hasInfix part text = true ↔ part <:+: text := by
  induction text with
  | nil => rw [hasInfix, List.isEmpty_iff, List.infix_nil]
  | cons c rest ih =>
    rw [hasInfix, Bool.or_eq_true, List.isPrefixOf_iff_prefix, ih, List.infix_cons_iff]

/-! ## Lists with commas -/

theorem joinWith_cons_cons (sep word next : List Char) (rest : List (List Char)) :
    joinWith sep (word :: next :: rest) = word ++ (sep ++ joinWith sep (next :: rest)) :=
  List.append_assoc word sep _

/-- What holds of texts and is kept when two are joined holds of all of them joined. -/
theorem joinWith_induction {motive : List Char → Prop} {sep : List Char} (nil : motive [])
    (join : ∀ first second, motive first → motive second → motive (first ++ (sep ++ second)))
    {texts : List (List Char)} (htexts : ∀ text ∈ texts, motive text) :
    motive (joinWith sep texts) := by
  induction texts with
  | nil => exact nil
  | cons text rest ih =>
    have htext := htexts text List.mem_cons_self
    cases rest with
    | nil => exact htext
    | cons next rest =>
      rw [joinWith_cons_cons]
      exact join text _ htext (ih fun t ht => htexts t (List.mem_cons_of_mem text ht))

/-- Each of the texts stands in all of them joined. -/
theorem isInfix_joinWith {sep text : List Char} {texts : List (List Char)} (htext : text ∈ texts) :
    text <:+: joinWith sep texts := by
  induction texts with
  | nil => cases htext
  | cons first rest ih =>
    cases rest with
    | nil => exact List.mem_singleton.mp htext ▸ List.infix_refl _
    | cons next rest =>
      rw [joinWith_cons_cons]
      rcases List.mem_cons.mp htext with rfl | hrest
      · exact (List.prefix_append _ _).isInfix
      · exact (ih hrest).trans ⟨first ++ sep, [], by simp⟩

/-- A class without the comma is counted in the texts alone. -/
theorem countP_joinWith {p : Char → Bool} (hcomma : p ',' = false) (texts : List (List Char)) :
    (joinWith [','] texts).countP p = texts.flatten.countP p := by
  induction texts with
  | nil => rfl
  | cons text rest ih =>
    cases rest with
    | nil => simp [joinWith]
    | cons next rest =>
      rw [joinWith_cons_cons, List.countP_append, List.countP_append, ih, List.countP_singleton,
        hcomma, List.flatten_cons, List.countP_append]
      simp

/-- Joining is the library's. -/
theorem joinWith_eq_intercalate (sep : List Char) (words : List (List Char)) :
    joinWith sep words = sep.intercalate words := by
  induction words with
  | nil => rfl
  | cons word rest ih =>
    cases rest with
    | nil => simp [joinWith]
    | cons next rest =>
      rw [joinWith_cons_cons, ih, List.intercalate_cons_cons, List.append_assoc]

/-- Splitting at a character is the library's. -/
theorem splitAt_eq_splitOn (sep : Char) (text : List Char) :
    splitAt sep text = text.splitOn sep := by
  induction text with
  | nil => simp [splitAt]
  | cons c rest ih =>
    rw [splitAt, List.splitOn_cons_eq_if_modifyHead, ih]
    split
    · rfl
    · -- The character goes to the first piece, and there is one in every text.
      obtain ⟨piece, pieces, hpieces⟩ :=
        List.exists_cons_of_ne_nil (List.splitOn_ne_nil sep rest)
      rw [hpieces]
      rfl

/-- Texts without the separator are read back from their list. -/
theorem splitAt_joinWith {sep : Char} {texts : List (List Char)} (hne : texts ≠ [])
    (hfree : ∀ text ∈ texts, sep ∉ text) : splitAt sep (joinWith [sep] texts) = texts := by
  rw [joinWith_eq_intercalate, splitAt_eq_splitOn, List.splitOn_intercalate sep hfree hne]

/-! ## Lower case -/

/-- Blanks have no case. -/
theorem lowerChar_of_isBlank {c : Char} (h : isBlank c = true) : lowerChar c = c := by
  rw [lowerChar, if_neg]
  simp [isBlank, Char.le_def, UInt32.le_iff_toNat_le, Char.ext_iff, ← UInt32.toNat_inj] at h ⊢
  omega

theorem lowerChar_lowerChar (c : Char) : lowerChar (lowerChar c) = lowerChar c := by
  by_cases h : c.toNat < 128
  · have hall : ∀ n < 128, lowerChar (lowerChar (Char.ofNat n)) = lowerChar (Char.ofNat n) := by
      decide
    simpa only [Char.ofNat_toNat] using hall c.toNat h
  · have hsame : lowerChar c = c := by
      rw [lowerChar, if_neg]
      simp only [Bool.and_eq_true, decide_eq_true_eq, Char.le_def, UInt32.le_iff_toNat_le]
      intro hle
      exact h (lt_of_le_of_lt hle.2 (by decide))
    rw [hsame, hsame]

theorem lower_lower (text : String) : lower (lower text) = lower text := by
  simp [lower, Function.comp_def, lowerChar_lowerChar]

theorem lower_ne_empty_iff (text : String) : lower text ≠ "" ↔ text ≠ "" := by
  simp only [ne_eq, ← String.toList_inj, lower, String.toList_ofList, String.toList_empty,
    List.map_eq_nil_iff]

end TokenAudit.Text
