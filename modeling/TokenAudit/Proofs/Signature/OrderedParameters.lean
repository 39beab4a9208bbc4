import Mathlib.Data.Finset.Card
import TokenAudit.Code.Signature
import TokenAudit.Proofs.Signature.ParameterNames
import TokenAudit.Proofs.Signature.Written

/-!
# Parameter lists as ordered maps

A parameter list is a map from names to types that remembers the order of its names. Declaring a
name again changes its type and nothing else, so a name stands where it was declared first and has
the type with which it was declared last. The text of a parameter list is read in this way, and a
text with a type and a name of its own in every parameter is read as it is written.

## Main definitions

* `ParameterList.Holds`: the list is what remains of a run of declarations.
* `NamedParam`: a parameter with a type and a name, as it is written.

## Main results

* `ParameterList.holds_ofList`: declaring parameters one after the other gives such a list.
* `NamedParam.parametersOf_listText`: the parameters of a written list, if their names differ.
-/

namespace TokenAudit

open Text Unicode

/-- The names that remain stand in the order of their first occurrences. -/
theorem pairwise_idxOf_eraseDups (names : List String) :
    names.eraseDups.Pairwise fun a b => names.idxOf a < names.idxOf b := by
  induction names using List.reverseRecOn with
  | nil => simp
  | append_singleton names name ih =>
    have hkept : names.eraseDups.Pairwise fun a b =>
        (names ++ [name]).idxOf a < (names ++ [name]).idxOf b := by
      refine List.Pairwise.imp_of_mem (fun ha hb hlt => ?_) ih
      rwa [List.idxOf_append_of_mem (List.mem_eraseDups.mp ha),
        List.idxOf_append_of_mem (List.mem_eraseDups.mp hb)]
    rw [eraseDups_concat]
    split
    · exact hkept
    · rename_i hnew
      refine List.pairwise_append.mpr ⟨hkept, List.pairwise_singleton _ _, fun a ha b hb => ?_⟩
      have hmem : a ∈ names := List.mem_eraseDups.mp ha
      rw [List.mem_singleton.mp hb, List.idxOf_append_of_mem hmem,
        List.idxOf_append_of_notMem hnew]
      exact Nat.lt_add_right _ (List.idxOf_lt_length_of_mem hmem)

namespace ParameterList

/-! ## Types -/

/-- Declaring a parameter gives its name the type and leaves the other types alone. -/
theorem typeOf?_insert (list : ParameterList) (name type other : String) :
    (list.insert name type).typeOf? other =
      if other = name then some type else list.typeOf? other := by
  obtain ⟨entries⟩ := list
  simp only [insert, typeOf?]
  induction entries with
  | nil => by_cases hother : other = name <;> simp [insertEntry, hother, Ne.symm]
  | cons entry rest ih =>
    rw [insertEntry]
    by_cases hname : entry.1 = name <;> by_cases hother : other = name <;>
      by_cases hentry : entry.1 = other <;> simp_all

theorem ofList_concat (declared : List (String × String)) (last : String × String) :
    ofList (declared ++ [last]) = (ofList declared).insert last.1 last.2 := by
  simp [ofList]

/-- The type of a name is that of its last declaration. -/
theorem typeOf?_ofList_eq_some_iff (declared : List (String × String)) (name type : String) :
    (ofList declared).typeOf? name = some type ↔
      ∃ front back, declared = front ++ (name, type) :: back ∧ name ∉ back.map (·.1) := by
  induction declared using List.reverseRecOn with
  | nil => simp [ofList, typeOf?, empty]
  | append_singleton declared last ih =>
    rw [ofList_concat, typeOf?_insert]
    constructor
    · intro htype
      split at htype
      · rename_i hname
        subst hname
        cases htype
        exact ⟨declared, [], rfl, by simp⟩
      · rename_i hother
        obtain ⟨front, back, rfl, hback⟩ := ih.mp htype
        exact ⟨front, back ++ [last], by simp, by simpa [hback] using hother⟩
    · rintro ⟨front, back, hdeclared, hback⟩
      rcases List.eq_nil_or_concat' back with rfl | ⟨back, final, rfl⟩
      · cases (List.append_inj' hdeclared rfl).2
        exact if_pos rfl
      · rw [← List.cons_append, ← List.append_assoc] at hdeclared
        obtain ⟨rfl, hlast⟩ := List.append_inj' hdeclared rfl
        cases hlast
        simp only [List.map_append, List.map_singleton, List.mem_append, List.mem_singleton,
          not_or] at hback
        rw [if_neg hback.2]
        exact ih.mpr ⟨front, back, rfl, hback.1⟩

theorem typeOf?_eq_none_iff (list : ParameterList) (name : String) :
    list.typeOf? name = none ↔ name ∉ list.names := by
  simp only [typeOf?, names, Option.map_eq_none_iff, List.find?_eq_none, beq_iff_eq,
    List.mem_map, not_exists, not_and]

theorem entry_eq_of_nodup {list : ParameterList} (hnodup : list.names.Nodup)
    {name type other : String} (hentry : (name, type) ∈ list.entries)
    (hother : (name, other) ∈ list.entries) : type = other :=
  congrArg Prod.snd (List.inj_on_of_nodup_map hnodup hentry hother rfl)

/-- Where the names are distinct, the types are those of the entries. -/
theorem typeOf?_eq_some_iff_mem {list : ParameterList} (hnodup : list.names.Nodup)
    (name type : String) : list.typeOf? name = some type ↔ (name, type) ∈ list.entries := by
  have hmem : ∀ type, list.typeOf? name = some type → (name, type) ∈ list.entries := by
    intro type htype
    obtain ⟨⟨found, declared⟩, hfind, rfl⟩ := Option.map_eq_some_iff.mp htype
    have hname : found = name := by simpa using List.find?_some hfind
    exact hname ▸ List.mem_of_find?_eq_some hfind
  refine ⟨hmem type, fun hentry => ?_⟩
  have hname : name ∈ list.names := List.mem_map.mpr ⟨(name, type), hentry, rfl⟩
  cases htype : list.typeOf? name with
  | none => exact absurd hname ((typeOf?_eq_none_iff list name).mp htype)
  | some other => rw [entry_eq_of_nodup hnodup hentry (hmem other htype)]

/-- Where the names are distinct, the entries are the names in their order with their types. -/
theorem getElem?_entries_eq_some_iff {list : ParameterList} (hnodup : list.names.Nodup)
    (index : Nat) (name type : String) :
    list.entries[index]? = some (name, type) ↔
      list.nameAt? index = some name ∧ list.typeOf? name = some type := by
  rw [typeOf?_eq_some_iff_mem hnodup, nameAt?, Option.map_eq_some_iff]
  constructor
  · intro hget
    exact ⟨⟨_, hget, rfl⟩, List.mem_of_getElem? hget⟩
  · rintro ⟨⟨⟨_, other⟩, hget, rfl⟩, hentry⟩
    rw [hget, entry_eq_of_nodup hnodup hentry (List.mem_of_getElem? hget)]

/-! ## What remains of a run of declarations -/

/-- The list is what remains of declarations made one after the other. -/
structure Holds (list : ParameterList) (declared : List (String × String)) : Prop where
  /-- The names are distinct. -/
  nodup : list.names.Nodup
  /-- They are the declared ones. -/
  mem_names : ∀ name, name ∈ list.names ↔ name ∈ declared.map (·.1)
  /-- They stand in the order of their first declarations. -/
  order : list.names.Pairwise fun a b =>
    (declared.map (·.1)).idxOf a < (declared.map (·.1)).idxOf b
  /-- A name has the type of its last declaration. -/
  last_type : ∀ name type, list.typeOf? name = some type ↔
    ∃ front back, declared = front ++ (name, type) :: back ∧ name ∉ back.map (·.1)
  /-- It has none exactly if it was not declared. -/
  no_type : ∀ name, list.typeOf? name = none ↔ name ∉ declared.map (·.1)
  /-- The size is the number of distinct names. -/
  size_eq : list.size = (declared.map (·.1)).toFinset.card
  /-- The entries in turn are the names by position, with their types. -/
  entry_iff : ∀ index name type, list.entries[index]? = some (name, type) ↔
    list.nameAt? index = some name ∧ list.typeOf? name = some type

theorem holds_ofList (declared : List (String × String)) : (ofList declared).Holds declared := by
  have hnames := names_ofList declared
  have hnodup : (ofList declared).names.Nodup := hnames ▸ nodup_eraseDups _
  have hmem : ∀ name, name ∈ (ofList declared).names ↔ name ∈ declared.map (·.1) := by
    intro name
    rw [hnames, List.mem_eraseDups]
  exact {
    nodup := hnodup
    mem_names := hmem
    order := hnames ▸ pairwise_idxOf_eraseDups _
    last_type := typeOf?_ofList_eq_some_iff declared
    no_type := fun name => by rw [typeOf?_eq_none_iff, hmem]
    size_eq := by
      have hset : (ofList declared).names.toFinset = (declared.map (·.1)).toFinset :=
        Finset.ext fun name => by rw [List.mem_toFinset, List.mem_toFinset, hmem]
      rw [← hset, List.toFinset_card_of_nodup hnodup, names, List.length_map, size]
    entry_iff := getElem?_entries_eq_some_iff hnodup }

/-! ## Lists whose names differ -/

theorem insertEntry_of_notMem {name : String} {entries : List (String × String)}
    (hnew : name ∉ entries.map (·.1)) (type : String) :
    insertEntry name type entries = entries ++ [(name, type)] := by
  induction entries with
  | nil => rfl
  | cons entry rest ih =>
    simp only [List.map_cons, List.mem_cons, not_or] at hnew
    rw [insertEntry, if_neg (by simpa using Ne.symm hnew.1), ih hnew.2, List.cons_append]

/-- Declarations of distinct names are all kept. -/
theorem ofList_of_nodup {declared : List (String × String)}
    (hnodup : (declared.map (·.1)).Nodup) : ofList declared = ⟨declared⟩ := by
  induction declared using List.reverseRecOn with
  | nil => rfl
  | append_singleton declared last ih =>
    rw [List.map_append, List.map_singleton, nodup_append_singleton_iff] at hnodup
    rw [ofList_concat, ih hnodup.2, insert, insertEntry_of_notMem hnodup.1]

end ParameterList

/-! ## Written lists -/

/-- A parameter with a type and a name. The type may be of several words, each after the first with
the blanks before it. -/
structure NamedParam where
  /-- The blanks before the parameter. -/
  lead : Blanks
  /-- The first word of the type. -/
  type : ParamWord
  /-- The other words of the type. -/
  typeRest : List (Spacing × ParamWord)
  /-- The blanks before the name. -/
  gap : Spacing
  /-- The name. -/
  name : ParamWord
  /-- The blanks after the parameter. -/
  trail : Blanks

namespace NamedParam

/-- The words of the type. -/
def typeWords (p : NamedParam) : List (List Char) :=
  p.type.chars :: p.typeRest.map (·.2.chars)

/-- The text of a parameter. -/
def chars (p : NamedParam) : List Char :=
  p.lead.chars ++ (p.type.chars ++ ((p.typeRest ++ [(p.gap, p.name)]).flatMap
    (fun word => word.1.chars ++ word.2.chars) ++ p.trail.chars))

/-- The name and the type, with single spaces between the words of the type. -/
def entry (p : NamedParam) : String × String :=
  (String.ofList p.name.chars, String.ofList ([' '].intercalate p.typeWords))

/-- The text of a parameter list. -/
def listText (params : List NamedParam) : String :=
  String.ofList ([','].intercalate (params.map chars))

theorem wordsOf_chars (p : NamedParam) : wordsOf p.chars = p.typeWords ++ [p.name.chars] := by
  rw [chars, wordsOf_blanks_append p.lead.blank]
  refine (wordsOf_append_words _ _ _).trans ?_
  rw [p.type.wordsOf_chars, List.map_append, typeWords]
  rfl

/-- A parameter is entered under its name, with the words of its type. -/
theorem parameter?_chars (p : NamedParam) : parameter? p.chars = some p.entry := by
  have hread : parameter? p.chars = some (String.ofList ((wordsOf p.chars).getLastD []),
      String.ofList (joinWith [' '] (wordsOf p.chars).dropLast)) := by
    rw [parameter?, p.wordsOf_chars, typeWords]
    cases p.typeRest <;> rfl
  rw [hread, p.wordsOf_chars, List.getLastD_concat, List.dropLast_concat, joinWith_eq_intercalate,
    entry]

theorem notMem_chars_comma (p : NamedParam) : ',' ∉ p.chars := by
  intro hcomma
  obtain ⟨word, hword, hmem⟩ := exists_mem_wordsOf hcomma (by decide)
  have hwords : word ∈ (p.type :: (p.typeRest.map (·.2) ++ [p.name])).map (·.chars) := by
    simpa [wordsOf_chars, typeWords] using hword
  obtain ⟨written, -, rfl⟩ := List.mem_map.mp hwords
  exact (written.free _ hmem).2 rfl

/-- The parameters of a written list are the written ones. -/
theorem filterMap_parameter?_splitAt (params : List NamedParam) :
    (splitAt ',' (listText params).toList).filterMap parameter? = params.map entry := by
  by_cases hne : params = []
  · subst hne
    rfl
  · have hfree : ∀ piece ∈ params.map chars, ',' ∉ piece := by
      intro piece hpiece
      obtain ⟨p, -, rfl⟩ := List.mem_map.mp hpiece
      exact p.notMem_chars_comma
    rw [listText, String.toList_ofList, ← joinWith_eq_intercalate,
      splitAt_joinWith (by simpa using hne) hfree,
      List.filterMap_map, ← List.filterMap_eq_map]
    exact congrArg (List.filterMap · params) (funext parameter?_chars)

/-- Where the names differ, every parameter is entered as it is written. -/
theorem parametersOf_listText {params : List NamedParam}
    (hnodup : (params.map fun p => p.name.chars).Nodup) :
    parametersOf (listText params) = ⟨params.map entry⟩ := by
  have hnames : ((params.map entry).map (·.1)).Nodup := by
    have hofList : ((params.map fun p => p.name.chars).map String.ofList).Nodup :=
      hnodup.map fun _ _ => String.ofList_inj.mp
    simpa [Function.comp_def, entry] using hofList
  rw [parametersOf, filterMap_parameter?_splitAt, ParameterList.ofList_of_nodup hnames]

end NamedParam

/-- A list is what remains of the declarations made to it, and so are the parameters of a text.
Where every parameter of the text has a type and a name of its own, they are the written ones. -/
theorem parameters_keep_first_places_and_last_types :
    (∀ declared, (ParameterList.ofList declared).Holds declared) ∧
    (∀ text : String,
      (parametersOf text).Holds ((splitAt ',' text.toList).filterMap parameter?)) ∧
    ∀ params : List NamedParam, (params.map fun p => p.name.chars).Nodup →
      parametersOf (NamedParam.listText params) = ⟨params.map NamedParam.entry⟩ :=
  ⟨ParameterList.holds_ofList, fun _ => ParameterList.holds_ofList _,
    fun _ => NamedParam.parametersOf_listText⟩

/-- Several blanks. -/
def wideGap : Spacing :=
  ⟨⟨['\t', '\n', ' '], by simp [isBlank]⟩, by simp⟩

/-- A mapping, written with several blanks, under the name `held`. -/
def heldParam : NamedParam where
  lead := .none
  type := .ofString "mapping(address" (by decide) (by decide)
  typeRest := [(wideGap, .ofString "=>" (by decide) (by decide)),
    (.space, .ofString "uint)" (by decide) (by decide))]
  gap := wideGap
  name := .ofString "held" (by decide) (by decide)
  trail := wideGap.toBlanks

/-- The parameter `uint to`, after blanks. -/
def toParam : NamedParam where
  lead := wideGap.toBlanks
  type := .ofString "uint" (by decide) (by decide)
  typeRest := []
  gap := .space
  name := .ofString "to" (by decide) (by decide)
  trail := .none

/-- The two parameters are read from their text. -/
theorem parameters_keep_first_places_and_last_types_two :
    ([heldParam, toParam].map fun p => p.name.chars).Nodup ∧
      parametersOf "mapping(address\t\n => uint)\t\n held\t\n ,\t\n uint to" =
        ⟨[("held", "mapping(address => uint)"), ("to", "uint")]⟩ := by
  have hnodup : ([heldParam, toParam].map fun p => p.name.chars).Nodup := by decide
  have htext : NamedParam.listText [heldParam, toParam] =
      "mapping(address\t\n => uint)\t\n held\t\n ,\t\n uint to" := by decide
  exact ⟨hnodup, htext ▸ parameters_keep_first_places_and_last_types.2.2 _ hnodup⟩

/-- A name that is declared again keeps its place and takes the new type. -/
example : ParameterList.ofList [("a", "uint"), ("b", "bool"), ("a", "address")] =
    ⟨[("a", "address"), ("b", "bool")]⟩ := by decide

end TokenAudit
