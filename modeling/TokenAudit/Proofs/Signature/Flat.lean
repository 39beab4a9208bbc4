import Mathlib.Data.List.SplitBy
import TokenAudit.Proofs.Signature.Reduction
import TokenAudit.Proofs.Signature.Written

/-!
# Flat signatures

A signature is flat if no type of its parameters is a tuple. Its reduced form is its name and its
types with `uint` written in full, whatever blanks, locations and parameter names it is written
with.

## Main definitions

* `wordCuts`: a text cut at the edges of its words.
* `fullUint`: a text with `uint` written in full wherever it stands as a word.
* `FlatSignature`: a flat signature in its parts.

## Main results

* `widenUint_eq_fullUint`: widening writes `uint` in full.
* `FlatParam.paramType_chars`: a flat parameter is reduced to its type, written in full.
* `FlatSignature.normalizeChars_chars`: the reduced form of a flat signature.
-/

namespace TokenAudit

open Text Unicode Signature

/-! ## Words in their text -/

/-- The text cut at the edges of its words: each word is a piece, and so is each character between
words. -/
def wordCuts (text : List Char) : List (List Char) :=
  text.splitBy fun c d => isWord c && isWord d

theorem wordCuts_word {word : List Char} (hword : ∀ c ∈ word, isWord c = true) :
    wordCuts word = if word = [] then [] else [word] := by
  by_cases hempty : word = []
  · subst hempty
    rfl
  · rw [if_neg hempty]
    refine List.splitBy_of_isChain hempty (List.pairwise_of_forall_mem_list ?_).isChain
    intro c hc d hd
    rw [hword c hc, hword d hd]
    rfl

theorem wordCuts_append_cons {c : Char} (hc : isWord c = false) (first second : List Char) :
    wordCuts (first ++ c :: second) = wordCuts first ++ [c] :: wordCuts second := by
  -- `c` goes neither with the character before it nor with the one after it.
  have hsecond : wordCuts ([c] ++ second) = wordCuts [c] ++ wordCuts second :=
    List.splitBy_append (by simp [hc])
  rw [wordCuts, List.splitBy_append_cons second (by simp [hc])]
  exact congrArg (wordCuts first ++ ·) hsecond

/-- The words of a text are among its pieces. -/
theorem mem_wordCuts_iff {word : List Char} (hword : ∀ c ∈ word, isWord c = true)
    (text : List Char) : word ∈ wordCuts text ↔ word ∈ wholeWords text := by
  induction text using classInduction isWord with
  | inside part hpart => rw [wordCuts_word hpart, wholeWords_word hpart]
  | divide part c rest hpart hc ih =>
    have hother : word ≠ [c] := by
      rintro rfl
      simp [hc] at hword
    rw [wordCuts_append_cons hc, wholeWords_append_cons hc, List.mem_append, List.mem_append,
      List.mem_cons, ih, wordCuts_word hpart, wholeWords_word hpart, or_iff_right hother]

/-! ## Integers in full -/

/-- The text with `uint` written in full wherever it stands as a word. -/
def fullUint (text : List Char) : List Char :=
  (wordCuts text).flatMap fun cut => if cut = "uint".toList then "uint256".toList else cut

theorem fullUint_word {word : List Char} (hword : ∀ c ∈ word, isWord c = true) :
    fullUint word = if word = "uint".toList then "uint256".toList else word := by
  rw [fullUint, wordCuts_word hword]
  by_cases hempty : word = []
  · subst hempty
    rfl
  · rw [if_neg hempty, List.flatMap_singleton]

theorem fullUint_append_cons {c : Char} (hc : isWord c = false) (first second : List Char) :
    fullUint (first ++ c :: second) = fullUint first ++ c :: fullUint second := by
  have hcut : [c] ≠ "uint".toList := by simp
  rw [fullUint, wordCuts_append_cons hc, List.flatMap_append, List.flatMap_cons, if_neg hcut]
  rfl

/-- Widening writes `uint` in full. -/
theorem widenUint_eq_fullUint (text : List Char) : widenUint text = fullUint text := by
  have hwiden : ∀ word, (∀ c ∈ word, isWord c = true) → widenUint word = fullUint word := by
    intro word hword
    rw [widenUint, mapWords_word rfl hword, fullUint_word hword]
    simp only [beq_iff_eq]
  induction text using classInduction isWord with
  | inside word hword => exact hwiden word hword
  | divide word c rest hword hc ih =>
    rw [widenUint_append_cons hc, fullUint_append_cons hc, hwiden word hword, ih]

theorem fullUint_ne_nil {text : List Char} (hne : text ≠ []) : fullUint text ≠ [] := by
  intro hnil
  obtain ⟨cut, cuts, hcuts⟩ := List.exists_cons_of_ne_nil (List.splitBy_ne_nil.mpr hne)
  have hcut : cut ∈ wordCuts text := by
    rw [wordCuts, hcuts]
    exact List.mem_cons_self
  have hgone := List.flatMap_eq_nil_iff.mp hnil cut hcut
  split at hgone
  · cases hgone
  · exact List.ne_nil_of_mem_splitBy hcut hgone

/-- Nothing but `uint256` is new in a text that is written in full. -/
theorem mem_fullUint {c : Char} {text : List Char} (hc : c ∈ fullUint text) :
    c ∈ "uint256".toList ∨ c ∈ text := by
  obtain ⟨cut, hcut, hmem⟩ := List.mem_flatMap.mp hc
  split at hmem
  · exact .inl hmem
  · refine .inr ?_
    rw [← List.flatten_splitBy (fun c d => isWord c && isWord d) text]
    exact List.mem_flatten.mpr ⟨cut, hcut, hmem⟩

/-- Only where `uint` stands as a word is anything written in full. -/
theorem fullUint_eq_self {text : List Char} (htext : "uint".toList ∉ wordCuts text) :
    fullUint text = text := by
  have hcuts : (wordCuts text).map (fun cut =>
      if cut = "uint".toList then "uint256".toList else cut) = wordCuts text := by
    conv_rhs => rw [← List.map_id (wordCuts text)]
    exact List.map_congr_left fun cut hcut => if_neg (ne_of_mem_of_not_mem hcut htext)
  rw [fullUint, List.flatMap_def, hcuts]
  exact List.flatten_splitBy _ text

/-- Only `uint` is the same integer as `uint256`. -/
theorem fullUint_eq_uint256_iff (text : List Char) :
    fullUint text = "uint256".toList ↔ text = "uint".toList ∨ text = "uint256".toList := by
  have hwords : ∀ c ∈ "uint256".toList, isWord c = true := List.all_eq_true.mp (by decide)
  constructor
  · intro hfull
    cases text using classInduction isWord with
    | inside word hword =>
      rw [fullUint_word hword] at hfull
      split at hfull
      · next huint => exact .inl huint
      · exact .inr hfull
    | divide word c rest hword hc ih =>
      -- A character between words is kept, and `uint256` has none.
      have hmem : c ∈ "uint256".toList := by
        rw [← hfull, fullUint_append_cons hc]
        exact List.mem_append_right _ List.mem_cons_self
      rw [hwords c hmem] at hc
      cases hc
  · rintro (rfl | rfl)
    · rfl
    · rfl

/-! ## Flat parameters -/

/-- A word that is neither a tuple nor a location. -/
structure ParamWord.Plain (word : ParamWord) : Prop where
  notMem_open : '(' ∉ word.chars
  notMem_close : ')' ∉ word.chars
  notMem_location : ∀ location : DataLocation, location.word.chars ∉ wordCuts word.chars

/-- A parameter whose type and name are plain. -/
structure FlatParam extends WrittenParam where
  type_plain : type.Plain
  name_plain : ∀ named ∈ name, named.2.Plain

theorem exists_location_of_mem_locationWords {text : List Char} (htext : text ∈ locationWords) :
    ∃ location : DataLocation, location.word.chars = text := by
  simp only [locationWords, List.mem_cons, List.not_mem_nil, or_false] at htext
  rcases htext with rfl | rfl | rfl | rfl
  · exact ⟨.memory, rfl⟩
  · exact ⟨.calldata, rfl⟩
  · exact ⟨.storage, rfl⟩
  · exact ⟨.payable, rfl⟩

theorem ParamWord.Plain.not_hasLocation {word : ParamWord} (hplain : word.Plain) :
    ¬HasLocation word.chars := by
  rintro ⟨text, htext, hlocation⟩
  obtain ⟨location, rfl⟩ := exists_location_of_mem_locationWords hlocation
  have hword : ∀ c ∈ location.word.chars, isWord c = true := by
    cases location <;> exact List.all_eq_true.mp (by decide)
  exact hplain.notMem_location location ((mem_wordCuts_iff hword _).mpr htext)

/-- Location words are dropped word by word. -/
theorem Signature.wordsOf_dropLocations (text : List Char) :
    wordsOf (dropLocations text) =
      (wordsOf text).flatMap fun word => wordsOf (dropLocations word) := by
  -- Blanks belong to no location word, so they divide the text before and after the dropping.
  have hone : ∀ part, (∀ c ∈ part, (!isBlank c) = true) → wordsOf (dropLocations part) =
      (wordsOf part).flatMap fun word => wordsOf (dropLocations word) := by
    intro part hpart
    have hfree : ∀ c ∈ part, isBlank c = false := fun c hc => by simpa using hpart c hc
    rw [wordsOf_of_free hfree]
    by_cases hempty : part = []
    · subst hempty
      rfl
    · rw [if_neg hempty, List.flatMap_singleton]
  induction text using classInduction (fun c => !isBlank c) with
  | inside part hpart => exact hone part hpart
  | divide part c rest hpart hc ih =>
    have hblank : isBlank c = true := by simpa using hc
    rw [dropLocations_append_cons (isWord_of_isBlank hblank), wordsOf_append_blank hblank,
      wordsOf_append_blank hblank, List.flatMap_append, hone part hpart, ih]

/-- A plain word stays. -/
theorem ParamWord.Plain.wordsOf_dropLocations {word : ParamWord} (hplain : word.Plain) :
    wordsOf (dropLocations word.chars) = [word.chars] := by
  rw [dropLocations_eq_self hplain.not_hasLocation, word.wordsOf_chars]

/-- A location goes. -/
theorem DataLocation.wordsOf_dropLocations (location : DataLocation) :
    wordsOf (dropLocations location.word.chars) = [] := by
  cases location <;> decide

namespace FlatParam

theorem flatMap_locations (locations : List (Spacing × DataLocation)) :
    (locations.map ((·.2.chars) ∘ fun (gap, location) => (gap, location.word))).flatMap
      (fun word => wordsOf (dropLocations word)) = [] := by
  refine List.flatMap_eq_nil_iff.mpr fun text htext => ?_
  obtain ⟨⟨gap, location⟩, -, rfl⟩ := List.mem_map.mp htext
  exact location.wordsOf_dropLocations

theorem flatMap_name (p : FlatParam) :
    (p.name.toList.map (·.2.chars)).flatMap (fun word => wordsOf (dropLocations word)) =
      p.name.toList.map (·.2.chars) := by
  cases hname : p.name with
  | none => rfl
  | some named => simp [(p.name_plain named hname).wordsOf_dropLocations]

/-- A flat parameter is reduced to its type, written in full. -/
theorem paramType_chars (p : FlatParam) : paramType p.chars = fullUint p.type.chars := by
  -- The type and the name are left, and the name, the last word of two, is no part of the type.
  have hwords : wordsOf (dropLocations p.chars) =
      p.type.chars :: p.name.toList.map (·.2.chars) := by
    rw [wordsOf_dropLocations, WrittenParam.wordsOf_chars, WrittenParam.words, List.flatMap_cons,
      p.type_plain.wordsOf_dropLocations, WrittenParam.others, List.map_append, List.flatMap_append,
      List.map_map, flatMap_locations, p.flatMap_name]
    rfl
  rw [paramType_eq, hwords, ← widenUint_eq_fullUint]
  cases p.name <;> simp [typeWords]

/-- No word of a flat parameter holds a parenthesis. -/
theorem notMem_words (p : FlatParam) : ∀ word ∈ p.words, '(' ∉ word ∧ ')' ∉ word := by
  have hlocations : ∀ location : DataLocation,
      '(' ∉ location.word.chars ∧ ')' ∉ location.word.chars := by
    intro location
    cases location <;> decide
  intro word hword
  rcases List.mem_cons.mp hword with rfl | hother
  · exact ⟨p.type_plain.notMem_open, p.type_plain.notMem_close⟩
  · obtain ⟨⟨gap, other⟩, hmem, rfl⟩ := List.mem_map.mp hother
    rcases List.mem_append.mp hmem with hlocation | hname
    · obtain ⟨⟨_, location⟩, -, heq⟩ := List.mem_map.mp hlocation
      cases heq
      exact hlocations location
    · have hplain := p.name_plain (gap, other) (Option.mem_toList.mp hname)
      exact ⟨hplain.notMem_open, hplain.notMem_close⟩

/-- A flat parameter holds neither commas nor parentheses. -/
theorem notMem_marks (p : FlatParam) : ∀ c ∈ p.chars, c ∉ [',', '(', ')'] := by
  intro c hc hmark
  simp only [List.mem_cons, List.not_mem_nil, or_false] at hmark
  rcases WrittenParam.mem_chars hc with hblank | ⟨word, hword, hmem⟩
  · rcases hmark with rfl | rfl | rfl <;> exact absurd hblank (by decide)
  · rcases hmark with rfl | rfl | rfl
    · exact p.notMem_chars_comma hc
    · exact (p.notMem_words word hword).1 hmem
    · exact (p.notMem_words word hword).2 hmem

end FlatParam

/-! ## Flat signatures -/

theorem Blanks.notMem (blanks : Blanks) {c : Char} (hc : isBlank c = false) :
    c ∉ blanks.chars := by
  intro hmem
  rw [blanks.blank c hmem] at hc
  cases hc

/-- A list without parentheses ends at the next one. -/
theorem Signature.paramText_append {inner : List Char} (hinner : '(' ∉ inner ∧ ')' ∉ inner)
    (rest : List Char) : paramText (inner ++ ')' :: rest) = inner := by
  have hcount : inner.count ')' = inner.count '(' := by
    rw [List.count_eq_zero.mpr hinner.1, List.count_eq_zero.mpr hinner.2]
  have hinside : StaysInside parens 1 inner := by
    intro front hfront
    have hnone : front.count ')' = 0 := List.count_eq_zero.mpr (mt (hfront.subset ·) hinner.2)
    simp [parens, hnone]
  have hread : enclosed parens none (inner ++ ')' :: rest) = some (inner, rest) :=
    (enclosed_eq_some_iff (by decide)).mpr ⟨rfl, hinside, hcount⟩
  rw [paramText, hread]

/-- What stands between the parentheses of a flat signature. -/
inductive FlatParams
  | blank (blanks : Blanks)
  | listed (first : FlatParam) (others : List FlatParam)

/-- The text between the parentheses. -/
def FlatParams.chars : FlatParams → List Char
  | blank blanks => blanks.chars
  | listed first others => joinWith [','] ((first :: others).map (·.chars))

/-- The types of the parameters. -/
def FlatParams.types : FlatParams → List (List Char)
  | blank _ => []
  | listed first others => (first :: others).map (·.type.chars)

theorem FlatParams.notMem_parens (params : FlatParams) :
    '(' ∉ params.chars ∧ ')' ∉ params.chars := by
  cases params with
  | blank blanks => exact ⟨blanks.notMem (by decide), blanks.notMem (by decide)⟩
  | listed first others =>
    refine @joinWith_induction (fun text => '(' ∉ text ∧ ')' ∉ text) [','] (by simp) ?_ _ ?_
    · intro before after hbefore hafter
      simp [hbefore, hafter]
    · intro text htext
      obtain ⟨p, -, rfl⟩ := List.mem_map.mp htext
      exact ⟨fun h => p.notMem_marks _ h (by decide), fun h => p.notMem_marks _ h (by decide)⟩

theorem FlatParams.exists_word_of_mem_types {params : FlatParams} {type : List Char}
    (htype : type ∈ params.types) : ∃ word : ParamWord, word.chars = type := by
  cases params with
  | blank blanks => cases htype
  | listed first others =>
    obtain ⟨p, -, rfl⟩ := List.mem_map.mp htype
    exact ⟨p.type, rfl⟩

/-- A parameter list that lists anything is not blank. -/
theorem FlatParams.exists_not_blank_listed (first : FlatParam) (others : List FlatParam) :
    ∃ c ∈ (listed first others).chars, isBlank c = false := by
  obtain ⟨c, rest, htype⟩ := List.exists_cons_of_ne_nil first.type.ne_nil
  have hmem : c ∈ first.type.chars := by
    rw [htype]
    exact List.mem_cons_self
  refine ⟨c, ?_, (first.type.free c hmem).1⟩
  have hpart : first.chars <:+: (listed first others).chars := isInfix_joinWith (by simp)
  refine hpart.subset ?_
  simp [WrittenParam.chars, hmem]

/-- A flat signature in its parts. -/
structure FlatSignature where
  /-- The blanks before the name. -/
  lead : Blanks
  /-- The name. -/
  name : List Char
  notMem_name : '(' ∉ name
  first_name : ∀ c ∈ name.head?, isBlank c = false
  last_name : ∀ c ∈ name.getLast?, isBlank c = false
  /-- The blanks after the name. -/
  gap : Blanks
  /-- The parameters. -/
  params : FlatParams
  /-- The text after the parameter list. -/
  rest : List Char

namespace FlatSignature

/-- The text of a signature. -/
def chars (s : FlatSignature) : List Char :=
  s.lead.chars ++ s.name ++ s.gap.chars ++ '(' :: (s.params.chars ++ ')' :: s.rest)

theorem notMem_front (s : FlatSignature) : '(' ∉ s.lead.chars ++ s.name ++ s.gap.chars := by
  have hlead := s.lead.notMem (c := '(') (by decide)
  have hgap := s.gap.notMem (c := '(') (by decide)
  simp [hlead, hgap, s.notMem_name]

/-- The types of a flat signature are those of its parameters, written in full. -/
theorem types_chars (s : FlatSignature) : types s.chars = s.params.types.map fullUint := by
  rw [types, chars, (takeWhile_name s.notMem_front _).2]
  simp only [paramText_append s.params.notMem_parens]
  cases hparams : s.params with
  | blank blanks =>
    rw [if_pos (by simpa [FlatParams.chars] using blanks.blank)]
    rfl
  | listed first others =>
    have hpieces : splitParams (FlatParams.listed first others).chars =
        (first :: others).map (·.chars) := by
      refine splitParams_joinWith (by simp) fun piece hpiece => ?_
      obtain ⟨p, -, rfl⟩ := List.mem_map.mp hpiece
      exact p.notMem_marks
    rw [if_neg (by simpa using FlatParams.exists_not_blank_listed first others), hpieces,
      List.map_map, FlatParams.types, List.map_map]
    exact List.map_congr_left fun p _ => p.paramType_chars

/-- The reduced form of a flat signature. -/
theorem normalizeChars_chars (s : FlatSignature) :
    normalizeChars s.chars =
      s.name ++ '(' :: joinWith [','] (s.params.types.map fullUint) ++ [')'] := by
  have hname : trimChars (s.lead.chars ++ s.name ++ s.gap.chars) = s.name := by
    rw [trimChars_append s.lead.blank s.gap.blank, trimChars_eq_self s.first_name s.last_name]
  rw [← types_chars, chars, normalizeChars_append s.notMem_front, hname]

end FlatSignature

end TokenAudit
