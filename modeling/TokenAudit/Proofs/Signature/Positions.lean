import TokenAudit.Code.Signature
import TokenAudit.Proofs.Signature.ParameterNames
import TokenAudit.Proofs.Signature.Written
import TokenAudit.Requirement.Context

/-!
# Positions of parameters

The requirements of a standard refer to the parameters of a target by position. A parameter list
holds names, though: a parameter without a name takes no place in it, or, with a location, takes the
place of a parameter whose name is the location. So a declared name stands at its position only if
the parameters before it all take a place, each its own.

## Main definitions

* `WrittenParam.key`: the word under which a parameter is entered.

## Main results

* `WrittenParam.map_fst_parameters`: the names that the text of a parameter list declares.
* `nameAt?_eq_declared_iff`: where a declared name stands, and when that is its position.
-/

namespace TokenAudit

open Text Unicode

/-! ## The names of a written list -/

/-- A piece is entered under its last word, if there is one after the first. -/
theorem map_fst_parameter? (piece : List Char) :
    (parameter? piece).map (·.1) = (wordsOf piece).tail.getLast?.map String.ofList := by
  rcases hwords : wordsOf piece with _ | ⟨first, _ | ⟨second, rest⟩⟩
  · simp [parameter?, hwords]
  · simp [parameter?, hwords]
  · simp [parameter?, hwords, List.getLast?_cons]

namespace WrittenParam

/-- The word under which a parameter is entered: its name or, without one, its last location. -/
def key (p : WrittenParam) : Option String :=
  match p.name with
  | some (_, name) => some (String.ofList name.chars)
  | none => p.locations.getLast?.map fun (_, location) => String.ofList location.word.chars

theorem key_of_name {p : WrittenParam} {gap : Spacing} {name : ParamWord}
    (hname : p.name = some (gap, name)) : p.key = some (String.ofList name.chars) := by
  rw [key, hname]

theorem map_fst_parameter?_chars (p : WrittenParam) : (parameter? p.chars).map (·.1) = p.key := by
  rw [map_fst_parameter?, wordsOf_chars, words, List.tail_cons, others, List.map_append,
    List.getLast?_append, key]
  cases hname : p.name with
  | none => simp [List.getLast?_map, Function.comp_def]
  | some named => simp

theorem splitAt_listChars {params : List WrittenParam} (hne : params ≠ []) :
    splitAt ',' (listChars params) = params.map chars := by
  have hfree : ∀ piece ∈ params.map chars, ',' ∉ piece := by
    intro piece hpiece
    obtain ⟨p, -, rfl⟩ := List.mem_map.mp hpiece
    exact p.notMem_chars_comma
  exact splitAt_joinWith (by simpa using hne) hfree

/-- The names that the text of a parameter list declares. -/
theorem map_fst_parameters (params : List WrittenParam) :
    ((splitAt ',' (listChars params)).filterMap parameter?).map (·.1) = params.filterMap key := by
  by_cases hne : params = []
  · subst hne
    rfl
  · rw [splitAt_listChars hne, List.map_filterMap, List.filterMap_map]
    exact congrArg (List.filterMap · params) (funext map_fst_parameter?_chars)

/-- Where the name of a parameter stands. -/
theorem nameAt?_parametersOf_eq_some_iff {params : List WrittenParam} {index : Nat}
    {p : WrittenParam} {gap : Spacing} {name : ParamWord} (hp : params[index]? = some p)
    (hname : p.name = some (gap, name)) (place : Nat) :
    (parametersOf (String.ofList (listChars params))).nameAt? place =
        some (String.ofList name.chars) ↔
      place = ((params.take index).filterMap key).eraseDups.idxOf (String.ofList name.chars) := by
  obtain ⟨hlt, hget⟩ := List.getElem?_eq_some_iff.mp hp
  have hsplit : params = params.take index ++ p :: params.drop (index + 1) := by
    rw [← hget, List.getElem_cons_drop, List.take_append_drop]
  have hkeys : params.filterMap key = (params.take index).filterMap key ++
      String.ofList name.chars :: (params.drop (index + 1)).filterMap key := by
    conv_lhs => rw [hsplit]
    rw [List.filterMap_append, List.filterMap_cons_some (key_of_name hname)]
  rw [parametersOf, String.toList_ofList]
  exact ParameterList.nameAt?_ofList_eq_some_iff ((map_fst_parameters params).trans hkeys) place

end WrittenParam

/-- The parameters of a matched function are those that its text declares. -/
theorem parameters_of_mem_matchSignature {f : Function} {functions : List Function}
    {target : String} (hmatch : f ∈ matchSignature functions target) :
    f.parameters = parametersOf f.params := by
  obtain ⟨declared, -, rfl⟩ := List.mem_map.mp hmatch
  rfl

open WrittenParam

/-- A declared name stands after the names entered before it. That is its position in the list
exactly if every parameter before it is entered, and all of them under words of their own. A
requirement that reads the position from a matched target gets what stands there. -/
theorem nameAt?_eq_declared_iff {params : List WrittenParam} {index : Nat} {p : WrittenParam}
    {gap : Spacing} {name : ParamWord} (hp : params[index]? = some p)
    (hname : p.name = some (gap, name)) :
    (∀ place, (parametersOf (String.ofList (listChars params))).nameAt? place =
        some (String.ofList name.chars) ↔
      place = ((params.take index).filterMap key).eraseDups.idxOf (String.ofList name.chars)) ∧
    ((parametersOf (String.ofList (listChars params))).nameAt? index =
        some (String.ofList name.chars) ↔
      (∀ earlier ∈ params.take index, earlier.key.isSome) ∧
        ((params.take (index + 1)).filterMap key).Nodup) ∧
    ∀ (subject : Subject) (functions : List Function) (target : String),
      subject.target ∈ matchSignature functions target →
      subject.target.params = String.ofList (listChars params) →
      subject.param? index = (parametersOf (String.ofList (listChars params))).nameAt? index := by
  have hplace := fun place => nameAt?_parametersOf_eq_some_iff hp hname place
  refine ⟨hplace, ?_, fun subject functions target hmatch htext => ?_⟩
  · -- The place is at most the number of words entered before, and that at most the position.
    have hkeys : (params.take (index + 1)).filterMap key =
        (params.take index).filterMap key ++ [String.ofList name.chars] := by
      rw [List.take_add_one, hp, List.filterMap_append, Option.toList_some,
        List.filterMap_cons_some (key_of_name hname), List.filterMap_nil]
    have hlength : (params.take index).length = index :=
      List.length_take_of_le (List.getElem?_eq_some_iff.mp hp).1.le
    have hkept := List.length_filterMap_le key (params.take index)
    have hfound := idxOf_eraseDups_le ((params.take index).filterMap key) (String.ofList name.chars)
    rw [hplace, hkeys, ← idxOf_eraseDups_eq_length_iff, ← List.filterMap_length_eq_length]
    omega
  · rw [Subject.param?, parameters_of_mem_matchSignature hmatch, htext]

/-- The name `data`. -/
def dataWord : ParamWord :=
  .ofString "data" (by decide) (by decide)

/-- The parameter `bytes calldata data`. -/
def dataParam : WrittenParam where
  lead := .none
  type := .ofString "bytes" (by decide) (by decide)
  locations := [(.space, .calldata)]
  name := some (.space, dataWord)
  trail := .none

/-- The parameters `address from,uint8[] memory,bytes calldata data`. -/
def locatedParams : List WrittenParam :=
  [{ lead := .none
     type := .ofString "address" (by decide) (by decide)
     locations := []
     name := some (.space, .ofString "from" (by decide) (by decide))
     trail := .none },
   { lead := .none
     type := .ofString "uint8[]" (by decide) (by decide)
     locations := [(.space, .memory)]
     name := none
     trail := .none },
   dataParam]

/-- A parameter that is entered under its location leaves the names after it in their places. -/
theorem nameAt?_eq_declared_located :
    locatedParams[2]? = some dataParam ∧ dataParam.name = some (.space, dataWord) ∧
    (∀ place, (parametersOf (String.ofList (listChars locatedParams))).nameAt? place =
        some (String.ofList dataWord.chars) ↔
      place = ((locatedParams.take 2).filterMap key).eraseDups.idxOf
        (String.ofList dataWord.chars)) ∧
    (parametersOf (String.ofList (listChars locatedParams))).nameAt? 2 =
      some (String.ofList dataWord.chars) ∧
    ∀ (subject : Subject) (functions : List Function) (target : String),
      subject.target ∈ matchSignature functions target →
      subject.target.params = String.ofList (listChars locatedParams) →
      subject.param? 2 = some (String.ofList dataWord.chars) := by
  have hp : locatedParams[2]? = some dataParam := rfl
  have hname : dataParam.name = some (.space, dataWord) := rfl
  obtain ⟨hplace, hiff, hread⟩ := nameAt?_eq_declared_iff hp hname
  have hat := hiff.mpr (by decide +kernel)
  exact ⟨hp, hname, hplace, hat, fun subject functions target hmatch htext =>
    (hread subject functions target hmatch htext).trans hat⟩

/-- The parameters `address, uint256 x`. -/
def unnamedFirst : List WrittenParam :=
  [{ lead := .none
     type := .ofString "address" (by decide) (by decide)
     locations := []
     name := none
     trail := .none },
   { lead := Spacing.space.toBlanks
     type := .ofString "uint256" (by decide) (by decide)
     locations := []
     name := some (.space, .ofString "x" (by decide) (by decide))
     trail := .none }]

/-- A name after a parameter that is not entered does not stand at its position. -/
theorem nameAt?_unnamed_first_ne :
    String.ofList (listChars unnamedFirst) = "address, uint256 x" ∧
      (unnamedFirst[1]?.bind (·.name)).map (·.2.chars) = some "x".toList ∧
      (parametersOf (String.ofList (listChars unnamedFirst))).nameAt? 1 ≠ some "x" := by
  decide +kernel

end TokenAudit
