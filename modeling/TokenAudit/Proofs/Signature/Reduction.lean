import TokenAudit.Proofs.Signature.WholeWords
import TokenAudit.Proofs.Text.Nesting

/-!
# Parameter lists and their reduced form

A parameter list is cut at the commas outside parentheses, and each piece is reduced to its type.

## Main definitions

* `Signature.reduceParams`: the reduced types of a parameter list, with commas between them.
* `Signature.types`: the reduced types of the parameters of a signature.

## Main results

* `Signature.joinWith_splitParams`: cutting loses nothing but the commas.
* `Signature.normalizeChars_append`: the reduced form of a signature is its name and its types.
* `Signature.paramType_eq_widenUint`: a piece that is a type already is only widened.
-/

namespace TokenAudit.Signature

open Text Unicode

/-! ## Pieces -/

theorem splitParamsFrom_ne_nil (depth : Int) (piece text : List Char) :
    splitParamsFrom depth piece text ≠ [] := by
  fun_induction splitParamsFrom depth piece text <;> simp_all

/-- Cutting loses nothing but the commas. -/
theorem joinWith_splitParamsFrom (depth : Int) (piece text : List Char) :
    joinWith [','] (splitParamsFrom depth piece text) = piece.reverse ++ text := by
  fun_induction splitParamsFrom depth piece text with
  | case1 => simp [joinWith]
  | case2 | case3 | case5 => simp_all
  | case4 depth piece c rest _ _ hcomma ih =>
    -- After a comma comes at least one more piece, so that joining puts the comma back.
    obtain ⟨next, pieces, hpieces⟩ :=
      List.exists_cons_of_ne_nil (splitParamsFrom_ne_nil 0 [] rest)
    rw [hpieces] at ih ⊢
    rw [joinWith_cons_cons, ih]
    simp_all

/-- Cutting loses nothing but the commas. -/
theorem joinWith_splitParams (text : List Char) : joinWith [','] (splitParams text) = text :=
  joinWith_splitParamsFrom 0 [] text

/-- Characters that are neither commas nor parentheses go on with the piece. -/
theorem splitParamsFrom_append {text : List Char} (htext : ∀ c ∈ text, c ∉ [',', '(', ')'])
    (depth : Int) (piece after : List Char) :
    splitParamsFrom depth piece (text ++ after) =
      splitParamsFrom depth (text.reverse ++ piece) after := by
  induction text generalizing piece with
  | nil => rfl
  | cons c rest ih =>
    have hc : c ∉ [',', '(', ')'] := htext c List.mem_cons_self
    simp only [List.mem_cons, List.not_mem_nil, or_false, not_or] at hc
    rw [List.cons_append, splitParamsFrom, if_neg (by simp [hc]), if_neg (by simp [hc]),
      if_neg (by simp [hc]), ih fun d hd => htext d (List.mem_cons_of_mem c hd)]
    simp

/-- Pieces that hold neither commas nor parentheses are read back. -/
theorem splitParams_joinWith {pieces : List (List Char)} (hne : pieces ≠ [])
    (hpieces : ∀ piece ∈ pieces, ∀ c ∈ piece, c ∉ [',', '(', ')']) :
    splitParams (joinWith [','] pieces) = pieces := by
  induction pieces with
  | nil => exact absurd rfl hne
  | cons piece rest ih =>
    have hpiece := hpieces piece List.mem_cons_self
    cases rest with
    | nil =>
      have hread := splitParamsFrom_append hpiece 0 [] []
      simpa [splitParams, joinWith, splitParamsFrom] using hread
    | cons next rest =>
      -- The piece opens no parenthesis, so the comma after it ends the piece.
      rw [joinWith_cons_cons, splitParams, splitParamsFrom_append hpiece, List.singleton_append,
        splitParamsFrom, if_neg (by decide), if_neg (by decide), if_pos (by decide)]
      rw [splitParams] at ih
      rw [ih (List.cons_ne_nil next rest) fun p hp => hpieces p (List.mem_cons_of_mem _ hp)]
      simp

/-! ## Types -/

/-- The words of a piece that make its type: all but the last, or the only one. -/
def typeWords (words : List (List Char)) : List (List Char) :=
  if words.length ≤ 1 then words else words.dropLast

/-- The type of a piece is made of its words without location words, and widened. -/
theorem paramType_eq (piece : List Char) :
    paramType piece = widenUint (typeWords (wordsOf (dropLocations piece))).flatten := by
  rw [paramType, typeWords]
  rcases wordsOf (dropLocations piece) with _ | ⟨word, _ | ⟨next, rest⟩⟩
  · rfl
  · simp
  · simp

/-- A piece that is a type already is only widened. -/
theorem paramType_eq_widenUint {piece : List Char} (hfree : ∀ c ∈ piece, isBlank c = false)
    (hnone : ¬HasLocation piece) : paramType piece = widenUint piece := by
  rw [paramType_eq, dropLocations_eq_self hnone, wordsOf_of_free hfree]
  by_cases hempty : piece = []
  · simp [hempty, typeWords]
  · simp [hempty, typeWords]

/-- The reduced types of a parameter list, with commas between them. -/
def reduceParams (inner : List Char) : List Char :=
  joinWith [','] ((splitParams inner).map paramType)

/-- Blanks have no words. -/
theorem dropLocations_blanks {blanks : List Char} (hblanks : ∀ c ∈ blanks, isBlank c = true) :
    dropLocations blanks = blanks := by
  induction blanks with
  | nil => rfl
  | cons c rest ih =>
    have hc : isWord c = false := isWord_of_isBlank (hblanks c List.mem_cons_self)
    have hrest := ih fun d hd => hblanks d (List.mem_cons_of_mem c hd)
    have hdivide := dropLocations_append_cons hc [] rest
    rwa [hrest] at hdivide

/-- A blank parameter list has an empty reduced form. -/
theorem reduceParams_blanks {blanks : List Char} (hblanks : ∀ c ∈ blanks, isBlank c = true) :
    reduceParams blanks = [] := by
  have hmarks : ∀ c ∈ [',', '(', ')'], isBlank c = false := by simp [isBlank]
  have hpieces : splitParams (joinWith [','] [blanks]) = [blanks] := by
    refine splitParams_joinWith (List.cons_ne_nil _ _) fun piece hpiece c hc hmark => ?_
    have hblank := hblanks c (List.mem_singleton.mp hpiece ▸ hc)
    rw [hmarks c hmark] at hblank
    cases hblank
  have htype : paramType blanks = [] := by
    have hwords := wordsOf_blanks_append hblanks []
    rw [List.append_nil] at hwords
    rw [paramType_eq, dropLocations_blanks hblanks, hwords]
    rfl
  rw [joinWith] at hpieces
  rw [reduceParams, hpieces, List.map_singleton, htype]
  rfl

/-- The name of a signature ends at its first parenthesis. -/
theorem takeWhile_name {name : List Char} (hname : '(' ∉ name) (afterOpen : List Char) :
    (name ++ '(' :: afterOpen).takeWhile (· != '(') = name ∧
      (name ++ '(' :: afterOpen).dropWhile (· != '(') = '(' :: afterOpen := by
  have hclass : ∀ c ∈ name, (c != '(') = true := by
    intro c hc
    simpa using ne_of_mem_of_not_mem hc hname
  rw [List.takeWhile_append_of_pos hclass, List.dropWhile_append_of_pos hclass,
    List.takeWhile_cons_of_neg (by decide), List.dropWhile_cons_of_neg (by decide),
    List.append_nil]
  exact ⟨rfl, rfl⟩

/-- The reduced types of the parameters of a signature. -/
def types (signature : List Char) : List (List Char) :=
  match signature.dropWhile (· != '(') with
  | [] => []
  | _ :: afterOpen =>
    if (paramText afterOpen).all isBlank then []
    else (splitParams (paramText afterOpen)).map paramType

/-- The types of a signature are the reduced form of its parameter list. -/
theorem joinWith_types {name : List Char} (hname : '(' ∉ name) (afterOpen : List Char) :
    joinWith [','] (types (name ++ '(' :: afterOpen)) = reduceParams (paramText afterOpen) := by
  rw [types, (takeWhile_name hname afterOpen).2]
  simp only
  split
  · next hblank => rw [reduceParams_blanks (List.all_eq_true.mp hblank), joinWith]
  · rfl

/-- The reduced form of a signature is its name and its types. -/
theorem normalizeChars_append {name : List Char} (hname : '(' ∉ name) (afterOpen : List Char) :
    normalizeChars (name ++ '(' :: afterOpen) =
      trimChars name ++ '(' :: joinWith [','] (types (name ++ '(' :: afterOpen)) ++ [')'] := by
  rw [normalizeChars, types, (takeWhile_name hname afterOpen).1,
    (takeWhile_name hname afterOpen).2]

/-- A text without a parenthesis has no types, and is only trimmed. -/
theorem normalizeChars_of_notMem {text : List Char} (htext : '(' ∉ text) :
    normalizeChars text = trimChars text ∧ types text = [] := by
  have hdrop : text.dropWhile (· != '(') = [] := by
    refine List.dropWhile_eq_nil_iff.mpr fun c hc => ?_
    simpa using ne_of_mem_of_not_mem hc htext
  rw [normalizeChars, types, hdrop]
  exact ⟨rfl, rfl⟩

end TokenAudit.Signature
