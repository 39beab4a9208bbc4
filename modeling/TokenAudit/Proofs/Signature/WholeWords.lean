import TokenAudit.Code.Signature
import TokenAudit.Proofs.Text.Words

/-!
# Whole words

Location words are dropped and `uint` is widened only where they stand as whole words. A character
that belongs to no word divides a text, so that the text before it and the text after it can be
rewritten apart; with that, a text is followed word by word.

## Main definitions

* `Signature.wholeWords`: the maximal runs of word characters of a text.
* `Signature.HasLocation`: a location word stands in the text.

## Main results

* `Signature.mapWords_append_cons`: a divider parts what is rewritten.
* `Signature.filter_mapWords`: rewriting keeps the characters that it keeps in every word.
-/

namespace TokenAudit.Signature

open Text Unicode

/-- A blank belongs to no word. -/
theorem isWord_of_isBlank {c : Char} (h : isBlank c = true) : isWord c = false := by
  -- The blanks beyond ASCII are few, and none is in the table of word characters.
  have hspaces : ∀ n ∈ [0x85, 0xA0, 0x1680, 0x2000, 0x2001, 0x2002, 0x2003, 0x2004, 0x2005, 0x2006,
      0x2007, 0x2008, 0x2009, 0x200A, 0x2028, 0x2029, 0x202F, 0x205F, 0x3000],
      wordTable.contains n = false := by
    decide +kernel
  rw [isWord]
  split
  · next hascii =>
    simp [isBlank, isAsciiLetter, isAsciiDigit, Char.le_def, UInt32.le_iff_toNat_le, Char.ext_iff,
      ← UInt32.toNat_inj] at h hascii ⊢
    omega
  · next hwide =>
    refine hspaces c.toNat ?_
    simp [isBlank, Char.le_def, UInt32.le_iff_toNat_le, Char.ext_iff,
      ← UInt32.toNat_inj] at h hwide ⊢
    omega

/-! ## Words of a text -/

/-- The words of a text as patterns see them: its maximal runs of word characters. -/
def wholeWords (text : List Char) : List (List Char) :=
  splitRuns (fun c => !isWord c) [] text

/-- A divider parts the words. -/
theorem wholeWords_append_cons {c : Char} (hc : isWord c = false) (first second : List Char) :
    wholeWords (first ++ c :: second) = wholeWords first ++ wholeWords second :=
  splitRuns_append_cons (by simp [hc]) [] first second

/-- Word characters make one word. -/
theorem wholeWords_word {word : List Char} (hword : ∀ c ∈ word, isWord c = true) :
    wholeWords word = if word = [] then [] else [word] :=
  splitRuns_of_free (fun c hc => by simp [hword c hc]) []

/-- The words of texts with commas between them are the words of the texts. -/
theorem wholeWords_joinWith (texts : List (List Char)) :
    wholeWords (joinWith [','] texts) = texts.flatMap wholeWords := by
  induction texts with
  | nil => rfl
  | cons text rest ih =>
    cases rest with
    | nil => simp [joinWith]
    | cons next rest =>
      rw [joinWith_cons_cons, List.singleton_append, wholeWords_append_cons (by decide), ih]
      rfl

/-! ## Words rewritten -/

/-- A divider parts what is rewritten. -/
theorem mapWordsFrom_append_cons (replace : List Char → List Char) {c : Char}
    (hc : isWord c = false) (word first second : List Char) :
    mapWordsFrom replace word (first ++ c :: second) =
      mapWordsFrom replace word first ++ c :: mapWordsFrom replace [] second := by
  induction first generalizing word with
  | nil => cases word <;> simp [mapWordsFrom, hc]
  | cons d rest ih =>
    rw [List.cons_append, mapWordsFrom, mapWordsFrom]
    split
    · exact ih _
    · split
      · rw [ih, List.cons_append]
      · rw [ih, List.append_assoc, List.cons_append]

/-- Word characters go on with the word. -/
theorem mapWordsFrom_word (replace : List Char → List Char) {text : List Char}
    (htext : ∀ c ∈ text, isWord c = true) (word : List Char) :
    mapWordsFrom replace word text =
      if word.reverse ++ text = [] then [] else replace (word.reverse ++ text) := by
  induction text generalizing word with
  | nil => cases word <;> simp [mapWordsFrom]
  | cons c rest ih =>
    have hc : isWord c = true := htext c List.mem_cons_self
    rw [mapWordsFrom, if_pos hc, ih fun d hd => htext d (List.mem_cons_of_mem c hd)]
    simp

/-- A divider parts what is rewritten. -/
theorem mapWords_append_cons (replace : List Char → List Char) {c : Char} (hc : isWord c = false)
    (first second : List Char) :
    mapWords replace (first ++ c :: second) =
      mapWords replace first ++ c :: mapWords replace second :=
  mapWordsFrom_append_cons replace hc [] first second

/-- A word is rewritten as a whole. -/
theorem mapWords_word {replace : List Char → List Char} (hnil : replace [] = [])
    {word : List Char} (hword : ∀ c ∈ word, isWord c = true) :
    mapWords replace word = replace word := by
  rw [mapWords, mapWordsFrom_word replace hword, List.reverse_nil, List.nil_append]
  split
  · next hempty => rw [hempty, hnil]
  · rfl

/-- Texts with commas between them are rewritten one by one. -/
theorem mapWords_joinWith (replace : List Char → List Char) (texts : List (List Char)) :
    mapWords replace (joinWith [','] texts) = joinWith [','] (texts.map (mapWords replace)) := by
  induction texts with
  | nil => rfl
  | cons text rest ih =>
    cases rest with
    | nil => rfl
    | cons next rest =>
      rw [joinWith_cons_cons, List.singleton_append, mapWords_append_cons replace (by decide), ih]
      exact (joinWith_cons_cons [','] _ _ _).symm

variable {replace : List Char → List Char}

/-- A text whose words are all left alone is left alone. -/
theorem mapWords_eq_self (hnil : replace [] = []) {text : List Char}
    (htext : ∀ word ∈ wholeWords text, replace word = word) : mapWords replace text = text := by
  -- A part of word characters is the only word in it, unless it is empty.
  have hself : ∀ word, (∀ c ∈ word, isWord c = true) →
      (∀ v ∈ wholeWords word, replace v = v) → replace word = word := by
    intro word hword halone
    rw [wholeWords_word hword] at halone
    by_cases hempty : word = []
    · rw [hempty, hnil]
    · exact halone word (by simp [hempty])
  induction text using classInduction isWord with
  | inside word hword => rw [mapWords_word hnil hword, hself word hword htext]
  | divide word c rest hword hc ih =>
    rw [wholeWords_append_cons hc] at htext
    rw [mapWords_append_cons replace hc, mapWords_word hnil hword,
      hself word hword fun v hv => htext v (List.mem_append_left _ hv),
      ih fun v hv => htext v (List.mem_append_right _ hv)]

/-- Rewriting twice is rewriting once, if that holds for every word. -/
theorem mapWords_mapWords (hnil : replace [] = [])
    (hword : ∀ word, (∀ c ∈ word, isWord c = true) → ∀ c ∈ replace word, isWord c = true)
    (htwice : ∀ word, replace (replace word) = replace word) (text : List Char) :
    mapWords replace (mapWords replace text) = mapWords replace text := by
  induction text using classInduction isWord with
  | inside word hchars =>
    rw [mapWords_word hnil hchars, mapWords_word hnil (hword word hchars), htwice]
  | divide word c rest hchars hc ih =>
    rw [mapWords_append_cons replace hc, mapWords_append_cons replace hc, ih,
      mapWords_word hnil hchars, mapWords_word hnil (hword word hchars), htwice]

/-- Rewriting keeps the characters that it keeps in every word. -/
theorem filter_mapWords {p : Char → Bool} (hnil : replace [] = [])
    (hkeep : ∀ word, (∀ c ∈ word, isWord c = true) →
      (replace word).filter p = word.filter p) (text : List Char) :
    (mapWords replace text).filter p = text.filter p := by
  induction text using classInduction isWord with
  | inside word hword => rw [mapWords_word hnil hword, hkeep word hword]
  | divide word c rest hword hc ih =>
    rw [mapWords_append_cons replace hc, mapWords_word hnil hword, List.filter_append,
      List.filter_append, hkeep word hword, List.filter_cons, List.filter_cons, ih]

/-! ## Location words -/

/-- A location word stands in the text. -/
def HasLocation (text : List Char) : Prop :=
  ∃ word ∈ wholeWords text, word ∈ locationWords

instance (text : List Char) : Decidable (HasLocation text) :=
  inferInstanceAs (Decidable (∃ word ∈ wholeWords text, word ∈ locationWords))

/-- A divider belongs to no location word. -/
theorem hasLocation_append_cons {c : Char} (hc : isWord c = false) (first second : List Char) :
    HasLocation (first ++ c :: second) ↔ HasLocation first ∨ HasLocation second := by
  simp only [HasLocation, wholeWords_append_cons hc, List.mem_append, or_and_right, exists_or]

/-- A location word in a list with commas stands in one of its texts. -/
theorem hasLocation_joinWith {texts : List (List Char)} :
    HasLocation (joinWith [','] texts) ↔ ∃ text ∈ texts, HasLocation text := by
  simp only [HasLocation, wholeWords_joinWith, List.mem_flatMap]
  constructor
  · rintro ⟨word, ⟨text, htext, hword⟩, hlocation⟩
    exact ⟨text, htext, word, hword, hlocation⟩
  · rintro ⟨text, htext, word, hword, hlocation⟩
    exact ⟨word, ⟨text, htext, hword⟩, hlocation⟩

/-- Only location words are dropped. -/
theorem dropLocations_eq_self {text : List Char} (h : ¬HasLocation text) :
    dropLocations text = text := by
  refine mapWords_eq_self rfl fun word hword => if_neg ?_
  rw [List.contains_iff_mem]
  exact fun hlocation => h ⟨word, hword, hlocation⟩

/-- A divider parts what is dropped. -/
theorem dropLocations_append_cons {c : Char} (hc : isWord c = false) (first second : List Char) :
    dropLocations (first ++ c :: second) = dropLocations first ++ c :: dropLocations second :=
  mapWords_append_cons _ hc first second

/-- Dropping location words keeps the characters of every class that sees no difference between a
location word and a space. -/
theorem filter_dropLocations {p : Char → Bool}
    (hp : ∀ word ∈ locationWords, word.filter p = [' '].filter p) (text : List Char) :
    (dropLocations text).filter p = text.filter p := by
  refine filter_mapWords rfl (fun word _ => ?_) text
  split
  · next hlocation => exact (hp word (List.contains_iff_mem.mp hlocation)).symm
  · rfl

/-- A word is dropped exactly if it is a location word, and then its letters are gone. -/
theorem letters_dropLocations_word {word : List Char} (hword : ∀ c ∈ word, isWord c = true) :
    (dropLocations word).countP isAsciiLetter ≤ word.countP isAsciiLetter ∧
      (HasLocation word →
        (dropLocations word).countP isAsciiLetter < word.countP isAsciiLetter) := by
  have hletters : ∀ location ∈ locationWords,
      [' '].countP isAsciiLetter < location.countP isAsciiLetter := by
    decide
  by_cases hlocation : word ∈ locationWords
  · have hdrop : dropLocations word = [' '] := by
      rw [dropLocations, mapWords_word rfl hword, if_pos (List.contains_iff_mem.mpr hlocation)]
    rw [hdrop]
    exact ⟨(hletters word hlocation).le, fun _ => hletters word hlocation⟩
  · have hnone : ¬HasLocation word := by
      rintro ⟨whole, hwhole, hmem⟩
      rw [wholeWords_word hword] at hwhole
      split at hwhole
      · cases hwhole
      · exact hlocation (List.mem_singleton.mp hwhole ▸ hmem)
    rw [dropLocations_eq_self hnone]
    exact ⟨le_rfl, fun h => absurd h hnone⟩

/-- Dropping location words takes letters away, at least one if there is a location word. -/
theorem letters_dropLocations (text : List Char) :
    (dropLocations text).countP isAsciiLetter ≤ text.countP isAsciiLetter ∧
      (HasLocation text →
        (dropLocations text).countP isAsciiLetter < text.countP isAsciiLetter) := by
  induction text using classInduction isWord with
  | inside word hword => exact letters_dropLocations_word hword
  | divide word c rest hword hc ih =>
    obtain ⟨hle, hlt⟩ := letters_dropLocations_word hword
    rw [dropLocations_append_cons hc, hasLocation_append_cons hc, List.countP_append,
      List.countP_append, List.countP_cons, List.countP_cons]
    refine ⟨by omega, ?_⟩
    rintro (hfirst | hsecond)
    · have hword := hlt hfirst
      omega
    · have hrest := ih.2 hsecond
      omega

/-! ## Widened integers -/

/-- A divider parts what is widened. -/
theorem widenUint_append_cons {c : Char} (hc : isWord c = false) (first second : List Char) :
    widenUint (first ++ c :: second) = widenUint first ++ c :: widenUint second :=
  mapWords_append_cons _ hc first second

/-- Widening keeps every class of characters to which the size adds none. -/
theorem filter_widenUint {p : Char → Bool}
    (hp : "uint256".toList.filter p = "uint".toList.filter p) (text : List Char) :
    (widenUint text).filter p = text.filter p := by
  refine filter_mapWords rfl (fun word _ => ?_) text
  split
  · next huint => rw [hp, eq_of_beq huint]
  · rfl

/-- What is widened is not widened any further. -/
theorem widenUint_widenUint (text : List Char) : widenUint (widenUint text) = widenUint text := by
  refine mapWords_mapWords rfl (fun word hword => ?_) (fun word => ?_) text
  · split
    · exact List.all_eq_true.mp (by decide)
    · exact hword
  · by_cases huint : word = "uint".toList
    · subst huint
      decide
    · simp only [beq_iff_eq, if_neg huint]

end TokenAudit.Signature
