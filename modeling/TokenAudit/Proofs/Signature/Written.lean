import TokenAudit.Proofs.Text.Words

/-!
# Parameters as they are written

A parameter is a type, then location words, then a name or no name, with blanks between them. A
parameter list is such parameters with commas between them.

## Main definitions

* `WrittenParam`: a parameter in its parts.

## Main results

* `WrittenParam.wordsOf_chars`: the words of a parameter are its parts.
-/

namespace TokenAudit

open Text Unicode

/-! ## Parts -/

/-- Blanks, or nothing. -/
structure Blanks where
  /-- The text. -/
  chars : List Char
  blank : ∀ c ∈ chars, isBlank c = true

/-- Blanks that divide two words. -/
structure Spacing extends Blanks where
  ne_nil : chars ≠ []

theorem isBlank_of_mem_nil : ∀ c ∈ [], isBlank c = true :=
  List.forall_mem_nil _

/-- No blanks. -/
def Blanks.none : Blanks :=
  ⟨[], isBlank_of_mem_nil⟩

/-- One space. -/
def Spacing.space : Spacing :=
  ⟨⟨[' '], by simp [isBlank]⟩, by simp⟩

/-- A word of a parameter. -/
structure ParamWord where
  /-- The text. -/
  chars : List Char
  ne_nil : chars ≠ []
  free : ∀ c ∈ chars, isBlank c = false ∧ c ≠ ','

/-- A word given by its text. -/
def ParamWord.ofString (text : String) (hne : text.toList ≠ [])
    (hfree : (text.toList.all fun c => !isBlank c && c != ',') = true) : ParamWord :=
  ⟨text.toList, hne, fun c hc => by simpa using List.all_eq_true.mp hfree c hc⟩

/-- The words that say where a parameter is stored, or that it takes payments. -/
inductive DataLocation
  | memory
  | calldata
  | storage
  | payable
  deriving DecidableEq, Repr

/-- A location as it is written. -/
def DataLocation.word : DataLocation → ParamWord
  | memory => .ofString "memory" (by decide) (by decide)
  | calldata => .ofString "calldata" (by decide) (by decide)
  | storage => .ofString "storage" (by decide) (by decide)
  | payable => .ofString "payable" (by decide) (by decide)

/-- A parameter in its parts. -/
structure WrittenParam where
  /-- The blanks before the parameter. -/
  lead : Blanks
  /-- The type. -/
  type : ParamWord
  /-- The locations, each with the blanks before it. -/
  locations : List (Spacing × DataLocation)
  /-- The name, if there is one, with the blanks before it. -/
  name : Option (Spacing × ParamWord)
  /-- The blanks after the parameter. -/
  trail : Blanks

namespace WrittenParam

/-- The words after the type, each with the blanks before it. -/
def others (p : WrittenParam) : List (Spacing × ParamWord) :=
  p.locations.map (fun (gap, location) => (gap, location.word)) ++ p.name.toList

/-- The words of a parameter. -/
def words (p : WrittenParam) : List (List Char) :=
  p.type.chars :: p.others.map (·.2.chars)

/-- The text of a parameter. -/
def chars (p : WrittenParam) : List Char :=
  p.lead.chars ++ (p.type.chars ++
    (p.others.flatMap (fun (gap, word) => gap.chars ++ word.chars) ++ p.trail.chars))

/-- The text of a parameter list. -/
def listChars (params : List WrittenParam) : List Char :=
  joinWith [','] (params.map chars)

end WrittenParam

/-! ## Words -/

theorem ParamWord.wordsOf_chars (word : ParamWord) : wordsOf word.chars = [word.chars] := by
  rw [wordsOf_of_free fun c hc => (word.free c hc).1, if_neg word.ne_nil]

/-- Blanks at the end belong to no word. -/
theorem Blanks.wordsOf_append (blanks : Blanks) (text : List Char) :
    wordsOf (text ++ blanks.chars) = wordsOf text := by
  by_cases hempty : blanks.chars = []
  · rw [hempty, List.append_nil]
  · have hgap := wordsOf_append_gap hempty blanks.blank text []
    rwa [List.append_nil, wordsOf_nil, List.append_nil] at hgap

/-- Words with blanks before them are the words of their text. -/
theorem wordsOf_append_words (first : List Char) (words : List (Spacing × ParamWord))
    (trail : Blanks) :
    wordsOf (first ++
        (words.flatMap (fun (gap, word) => gap.chars ++ word.chars) ++ trail.chars)) =
      wordsOf first ++ words.map (·.2.chars) := by
  induction words generalizing first with
  | nil => simpa using trail.wordsOf_append first
  | cons other rest ih =>
    obtain ⟨gap, word⟩ := other
    rw [List.flatMap_cons, List.append_assoc, List.append_assoc,
      wordsOf_append_gap gap.ne_nil gap.blank, ih, word.wordsOf_chars]
    rfl

namespace WrittenParam

/-- The words of a parameter are its parts. -/
theorem wordsOf_chars (p : WrittenParam) : wordsOf p.chars = p.words := by
  rw [chars, wordsOf_blanks_append p.lead.blank, wordsOf_append_words, p.type.wordsOf_chars]
  rfl

/-- The characters of a parameter are blanks and the characters of its words. -/
theorem mem_chars {p : WrittenParam} {c : Char} (h : c ∈ p.chars) :
    isBlank c = true ∨ ∃ word ∈ p.words, c ∈ word := by
  cases hc : isBlank c with
  | true => exact .inl rfl
  | false => exact .inr (p.wordsOf_chars ▸ exists_mem_wordsOf h hc)

/-- A parameter holds no comma. -/
theorem notMem_chars_comma (p : WrittenParam) : ',' ∉ p.chars := by
  intro hcomma
  rcases mem_chars hcomma with hblank | ⟨word, hword, hmem⟩
  · exact absurd hblank (by decide)
  · rcases List.mem_cons.mp hword with rfl | hother
    · exact (p.type.free _ hmem).2 rfl
    · obtain ⟨⟨gap, other⟩, -, rfl⟩ := List.mem_map.mp hother
      exact (other.free _ hmem).2 rfl

end WrittenParam

end TokenAudit
