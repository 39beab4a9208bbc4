import TokenAudit.Proofs.Signature.Flat

/-!
# Matching flat signatures

A function matches a target if their signatures have one hash. Between flat signatures that is a
matter of the function's name and of its types alone: the reduced form can be read back into both.

## Main results

* `FlatSignature.normalizeChars_eq_iff`: which flat signatures have one reduced form.
* `mem_matchSignature_flat_iff`: which functions match a flat target.
-/

namespace TokenAudit

open Text Unicode Signature

/-! ## Reading a reduced form back -/

/-- Texts that are neither empty nor divided by commas are read back from their list. -/
theorem filter_splitOn_joinWith {texts : List (List Char)}
    (htexts : ∀ text ∈ texts, text ≠ [] ∧ ',' ∉ text) :
    ((joinWith [','] texts).splitOn ',').filter (· ≠ []) = texts := by
  by_cases hempty : texts = []
  · subst hempty
    rfl
  · rw [← splitAt_eq_splitOn, splitAt_joinWith hempty fun text htext => (htexts text htext).2]
    exact List.filter_eq_self.mpr fun text htext => decide_eq_true (htexts text htext).1

/-- The name and the parameter list are read back from a reduced form. -/
theorem reducedForm_inj {name other first second : List Char} (hname : '(' ∉ name)
    (hother : '(' ∉ other) :
    name ++ '(' :: first ++ [')'] = other ++ '(' :: second ++ [')'] ↔
      name = other ∧ first = second := by
  constructor
  · intro heq
    rw [List.append_assoc, List.append_assoc] at heq
    -- Both sides are cut at their first parenthesis, which ends the name.
    have hnames := congrArg (List.takeWhile (· != '(')) heq
    have hlists := congrArg (List.dropWhile (· != '(')) heq
    rw [List.cons_append, List.cons_append] at hnames hlists
    rw [(takeWhile_name hname _).1, (takeWhile_name hother _).1] at hnames
    rw [(takeWhile_name hname _).2, (takeWhile_name hother _).2] at hlists
    exact ⟨hnames, List.append_cancel_right (List.cons_inj_right '(' |>.mp hlists)⟩
  · rintro ⟨rfl, rfl⟩
    rfl

namespace FlatSignature

theorem types_written (s : FlatSignature) :
    ∀ type ∈ s.params.types.map fullUint, type ≠ [] ∧ ',' ∉ type := by
  intro written hwritten
  obtain ⟨type, htype, rfl⟩ := List.mem_map.mp hwritten
  obtain ⟨word, rfl⟩ := FlatParams.exists_word_of_mem_types htype
  refine ⟨fullUint_ne_nil word.ne_nil, fun hcomma => ?_⟩
  rcases mem_fullUint hcomma with hdigit | hmem
  · exact absurd hdigit (by decide)
  · exact (word.free _ hmem).2 rfl

/-- Flat signatures have one reduced form exactly if they have one name and, with `uint` written in
full, the same types. -/
theorem normalizeChars_eq_iff (s t : FlatSignature) :
    normalizeChars s.chars = normalizeChars t.chars ↔
      s.name = t.name ∧ s.params.types.map fullUint = t.params.types.map fullUint := by
  rw [normalizeChars_chars, normalizeChars_chars, reducedForm_inj s.notMem_name t.notMem_name]
  refine and_congr_right fun _ => ⟨fun hlists => ?_, fun htypes => by rw [htypes]⟩
  rw [← filter_splitOn_joinWith s.types_written, hlists, filter_splitOn_joinWith t.types_written]

end FlatSignature

/-! ## Matches -/

/-- Two texts are not a collision of the hash function. -/
def Hash.Keccak.NoCollision (first second : String) : Prop :=
  digest first.toUTF8.toList = digest second.toUTF8.toList → first = second

/-- A function is listed as a match, with its parameters, exactly if its signature has the hash of
the target. -/
theorem mem_matchSignature_iff {f : Function} {functions : List Function} (hf : f ∈ functions)
    (target : String) :
    { f with parameters := parametersOf f.params } ∈ matchSignature functions target ↔
      Signature.hash f.declaredSignature = Signature.hash target := by
  constructor
  · intro hmatch
    -- What is listed may come from another function, but from one with the same signature.
    obtain ⟨g, hg, hsame⟩ := List.mem_map.mp hmatch
    have hdeclared : g.declaredSignature = f.declaredSignature := by
      rw [Function.declaredSignature, Function.declaredSignature]
      obtain ⟨hname, hparams⟩ : g.name = f.name ∧ g.params = f.params := by
        simp_all
      rw [hname, hparams]
    rw [← hdeclared]
    exact eq_of_beq (List.mem_filter.mp hg).2
  · intro hhash
    exact List.mem_map.mpr ⟨f, List.mem_filter.mpr ⟨hf, beq_iff_eq.mpr hhash⟩, rfl⟩

/-- A function that is written flat matches a flat target exactly if the names are equal and, with
`uint` written in full, the types are. Nothing else is written in full, so that no other integer is
taken for `uint256`. -/
theorem mem_matchSignature_flat_iff {f : Function} {functions : List Function}
    {written target : FlatSignature} (hf : f ∈ functions)
    (hwritten : f.declaredSignature = String.ofList written.chars)
    (hcollision : Hash.Keccak.NoCollision (Signature.normalize f.declaredSignature)
      (Signature.normalize (String.ofList target.chars))) :
    ({ f with parameters := parametersOf f.params } ∈
        matchSignature functions (String.ofList target.chars) ↔
      written.name = target.name ∧
        written.params.types.map fullUint = target.params.types.map fullUint) ∧
    (∀ type, "uint".toList ∉ wordCuts type → fullUint type = type) ∧
    ∀ type, fullUint type = "uint256".toList ↔
      type = "uint".toList ∨ type = "uint256".toList := by
  refine ⟨?_, fun type => fullUint_eq_self, fullUint_eq_uint256_iff⟩
  have hnormal : Signature.normalize f.declaredSignature =
        Signature.normalize (String.ofList target.chars) ↔
      normalizeChars written.chars = normalizeChars target.chars := by
    rw [hwritten, Signature.normalize, Signature.normalize, String.toList_ofList,
      String.toList_ofList, String.ofList_inj]
  rw [mem_matchSignature_iff hf, ← FlatSignature.normalizeChars_eq_iff, ← hnormal]
  exact ⟨hcollision, fun hequal => by rw [Signature.hash, Signature.hash, hequal]⟩

/-- The signature `batch(uint[] memory ids,string calldata)`. -/
def batchWritten : FlatSignature where
  lead := .none
  name := "batch".toList
  notMem_name := by decide
  first_name := by simp [isBlank]
  last_name := by simp [isBlank]
  gap := .none
  params := .listed
    { lead := .none
      type := .ofString "uint[]" (by decide) (by decide)
      locations := [(.space, .memory)]
      name := some (.space, .ofString "ids" (by decide) (by decide))
      trail := .none
      type_plain := ⟨by decide, by decide, fun location => by cases location <;> decide⟩
      name_plain := by
        rintro named ⟨rfl⟩
        exact ⟨by decide, by decide, fun location => by cases location <;> decide⟩ }
    [{ lead := .none
       type := .ofString "string" (by decide) (by decide)
       locations := [(.space, .calldata)]
       name := none
       trail := .none
       type_plain := ⟨by decide, by decide, fun location => by cases location <;> decide⟩
       name_plain := by rintro named ⟨⟩ }]
  rest := []

/-- The signature ` batch (uint256[] ,string) returns (bool)`. -/
def batchTarget : FlatSignature where
  lead := Spacing.space.toBlanks
  name := "batch".toList
  notMem_name := by decide
  first_name := by simp [isBlank]
  last_name := by simp [isBlank]
  gap := Spacing.space.toBlanks
  params := .listed
    { lead := .none
      type := .ofString "uint256[]" (by decide) (by decide)
      locations := []
      name := none
      trail := Spacing.space.toBlanks
      type_plain := ⟨by decide, by decide, fun location => by cases location <;> decide⟩
      name_plain := by rintro named ⟨⟩ }
    [{ lead := .none
       type := .ofString "string" (by decide) (by decide)
       locations := []
       name := none
       trail := .none
       type_plain := ⟨by decide, by decide, fun location => by cases location <;> decide⟩
       name_plain := by rintro named ⟨⟩ }]
  rest := " returns (bool)".toList

/-- A declared function `batch`. -/
def batchFunction : Function :=
  ⟨"batch", "uint[] memory ids,string calldata", "", 0, 50,
    "function batch(uint[] memory ids,string calldata);", false, .empty⟩

/-- Neither blanks nor a name nor locations keep a function from its target. -/
theorem mem_matchSignature_flat_batch :
    batchFunction.declaredSignature = String.ofList batchWritten.chars ∧
      Hash.Keccak.NoCollision (Signature.normalize batchFunction.declaredSignature)
        (Signature.normalize (String.ofList batchTarget.chars)) ∧
      { batchFunction with parameters := parametersOf batchFunction.params } ∈
        matchSignature [batchFunction] (String.ofList batchTarget.chars) := by
  have hwritten : batchFunction.declaredSignature = String.ofList batchWritten.chars := by
    decide +kernel
  have hcollision : Hash.Keccak.NoCollision (Signature.normalize batchFunction.declaredSignature)
      (Signature.normalize (String.ofList batchTarget.chars)) := fun _ => by decide +kernel
  have hlisted : batchFunction ∈ [batchFunction] := List.mem_cons_self
  have hmatch := mem_matchSignature_flat_iff hlisted hwritten hcollision
  exact ⟨hwritten, hcollision, hmatch.1.mpr (by decide +kernel)⟩

end TokenAudit
