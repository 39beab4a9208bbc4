import Mathlib.Algebra.Order.BigOperators.Group.List
import Mathlib.Algebra.Order.Group.Nat
import TokenAudit.Proofs.Signature.Reduction

/-!
# Signatures reduced twice

A reduced parameter list is free of blanks and widened, and it closes no parenthesis that it has not
opened. Reducing it again does two things to it. A location word that the first reduction put
together out of parts is dropped, and a parenthesis that it left open takes the one after the list
for its own. Where neither happens the reduced form is final.

## Main definitions

* `Signature.Reduced`: what every reduced parameter list is.

## Main results

* `Signature.reduceParams_paramText_eq_iff`: when a reduced parameter list is final.
* `Signature.normalize_normalize_eq_iff`: when a reduced signature is final.
-/

namespace TokenAudit.Signature

open Text Unicode

/-! ## Parentheses -/

/-- The parameter list after an opening parenthesis closes nothing that it has not opened. -/
theorem staysInside_paramText (afterOpen : List Char) :
    StaysInside parens 1 (paramText afterOpen) := by
  rw [paramText]
  cases hinner : enclosed parens none afterOpen with
  | none => exact (enclosed_eq_none_iff (by decide)).mp hinner
  | some parts =>
    obtain ⟨inner, after⟩ := parts
    exact ((enclosed_eq_some_iff (by decide)).mp hinner).2.1

/-- A closing parenthesis ends a parameter list that has closed what it opened, and is part of one
that has not. -/
theorem paramText_concat {list : List Char} (hlist : StaysInside parens 1 list) :
    paramText (list ++ [')']) =
      if list.count ')' = list.count '(' then list else list ++ [')'] := by
  have hcount : list.count ')' < list.count '(' + 1 := hlist list (List.prefix_refl list)
  split
  · next hpaired =>
    have hinner : enclosed parens none (list ++ [')']) = some (list, []) :=
      (enclosed_eq_some_iff (by decide)).mpr ⟨rfl, hlist, hpaired⟩
    rw [paramText, hinner]
  · next hopen =>
    -- The new parenthesis closes a level inside the list and not the list itself.
    have hnone : enclosed parens none (list ++ [')']) = none := by
      refine (enclosed_eq_none_iff (by decide)).mpr fun front hfront => ?_
      rcases List.prefix_concat_iff.mp hfront with rfl | hinside
      · have hclosers : (list ++ [')']).count ')' = list.count ')' + 1 := by simp
        have hopeners : (list ++ [')']).count '(' = list.count '(' := by simp
        simp only [parens, hclosers, hopeners]
        omega
      · exact hlist front hinside
    rw [paramText, hnone]

/-- The pieces that are cut from a list which closes nothing it has not opened are such lists. -/
theorem staysInside_of_mem_splitParamsFrom {depth : Int} {piece text part : List Char}
    (hdepth : (piece.count '(' : Int) - piece.count ')' = depth)
    (htext : StaysInside parens 1 (piece.reverse ++ text))
    (hpart : part ∈ splitParamsFrom depth piece text) : StaysInside parens 1 part := by
  fun_induction splitParamsFrom depth piece text with
  | case1 depth piece => simpa [List.mem_singleton.mp hpart] using htext
  | case2 depth piece c rest hopener ih =>
    obtain rfl := eq_of_beq hopener
    refine ih ?_ (by simpa using htext) hpart
    rw [List.count_cons_self, List.count_cons_of_ne (by decide)]
    omega
  | case3 depth piece c rest _ hcloser ih =>
    obtain rfl := eq_of_beq hcloser
    refine ih ?_ (by simpa using htext) hpart
    rw [List.count_cons_self, List.count_cons_of_ne (by decide)]
    omega
  | case4 depth piece c rest hopener hcloser hcomma ih =>
    obtain ⟨rfl, rfl⟩ : c = ',' ∧ depth = 0 := by simpa using hcomma
    rcases List.mem_cons.mp hpart with rfl | hrest
    · exact fun front hfront => htext front (hfront.trans (List.prefix_append _ _))
    · -- The piece before the comma has closed what it opened, so the text after it starts afresh.
      refine ih rfl (fun front hfront => ?_) hrest
      have hwhole := htext (piece.reverse ++ ',' :: front)
        ((List.prefix_append_right_inj _).mpr ((List.prefix_cons_inj ',').mpr hfront))
      have hclosers : (piece.reverse ++ ',' :: front).count ')' =
          piece.count ')' + front.count ')' := by simp
      have hopeners : (piece.reverse ++ ',' :: front).count '(' =
          piece.count '(' + front.count '(' := by simp
      simp only [parens, hclosers, hopeners] at hwhole ⊢
      omega
  | case5 depth piece c rest hopener hcloser hcomma ih =>
    refine ih ?_ (by simpa using htext) hpart
    rwa [List.count_cons_of_ne (by simpa using hopener),
      List.count_cons_of_ne (by simpa using hcloser)]

/-- The pieces of a list that closes nothing it has not opened are such lists. -/
theorem staysInside_of_mem_splitParams {text part : List Char} (htext : StaysInside parens 1 text)
    (hpart : part ∈ splitParams text) : StaysInside parens 1 part :=
  @staysInside_of_mem_splitParamsFrom 0 [] text part rfl htext hpart

/-! ## Reduced lists -/

/-- What every reduced parameter list is. -/
structure Reduced (list : List Char) : Prop where
  /-- It holds no blank. -/
  free : ∀ c ∈ list, isBlank c = false
  /-- It closes no parenthesis that it has not opened. -/
  inside : StaysInside parens 1 list
  /-- It is widened. -/
  wide : widenUint list = list

/-- The words of a type are the first characters of its piece that are neither blank nor part of a
location word. -/
theorem flatten_typeWords_start (piece : List Char) :
    (typeWords (wordsOf (dropLocations piece))).flatten <+:
      (dropLocations piece).filter fun c => !isBlank c := by
  rw [← flatten_wordsOf, typeWords]
  split
  · exact List.prefix_refl _
  · obtain ⟨last, hlast⟩ := List.dropLast_prefix (wordsOf (dropLocations piece))
    exact ⟨last.flatten, by rw [← List.flatten_append, hlast]⟩

/-- The type of a piece that closes nothing it has not opened is reduced. -/
theorem reduced_paramType {piece : List Char} (hpiece : StaysInside parens 1 piece) :
    Reduced (paramType piece) where
  free := by
    have hblanks : (paramType piece).filter isBlank = [] := by
      rw [paramType_eq, filter_widenUint (by decide), List.filter_eq_nil_iff]
      intro c hc
      have hkept := List.of_mem_filter ((flatten_typeWords_start piece).subset hc)
      simpa using hkept
    simpa [List.filter_eq_nil_iff] using hblanks
  inside := by
    -- What is dropped holds no parenthesis, apart from the last word.
    have hparens : (paramType piece).filter (fun c => c == '(' || c == ')') <+:
        piece.filter fun c => c == '(' || c == ')' := by
      rw [paramType_eq, filter_widenUint (by decide)]
      have hnoblank : ∀ c, ((c == '(' || c == ')') && !isBlank c) = (c == '(' || c == ')') := by
        intro c
        by_cases hparen : c = '(' ∨ c = ')'
        · rcases hparen with rfl | rfl <;> decide
        · simp [not_or.mp hparen]
      have hkept := (flatten_typeWords_start piece).filter fun c => c == '(' || c == ')'
      rwa [List.filter_filter, funext hnoblank, filter_dropLocations (by decide)] at hkept
    exact hpiece.of_filter_prefix rfl rfl hparens
  wide := by rw [paramType_eq, widenUint_widenUint]

/-- Reduced texts with commas between them are reduced. -/
theorem Reduced.joinWith {texts : List (List Char)} (htexts : ∀ text ∈ texts, Reduced text) :
    Reduced (joinWith [','] texts) := by
  have hnil : StaysInside parens 1 [] := (enclosed_eq_none_iff (by decide)).mp rfl
  have hcomma : StaysInside parens 1 [','] := (enclosed_eq_none_iff (by decide)).mp rfl
  refine joinWith_induction ⟨by simp, hnil, rfl⟩ (fun first second hfirst hsecond => ?_) htexts
  refine ⟨fun c hc => ?_, hfirst.inside.append (hcomma.append hsecond.inside), ?_⟩
  · rcases List.mem_append.mp hc with hc | hc
    · exact hfirst.free c hc
    · rcases List.mem_cons.mp hc with rfl | hc
      · decide
      · exact hsecond.free c hc
  · rw [List.singleton_append, widenUint_append_cons (by decide), hfirst.wide, hsecond.wide]

/-! ## The second reduction -/

/-- The type of a piece has no more letters than the piece, and fewer if a location word is
dropped. -/
theorem letters_paramType (piece : List Char) :
    (paramType piece).countP isAsciiLetter ≤ piece.countP isAsciiLetter ∧
      (HasLocation piece →
        (paramType piece).countP isAsciiLetter < piece.countP isAsciiLetter) := by
  have htype : (paramType piece).countP isAsciiLetter ≤
      (dropLocations piece).countP isAsciiLetter := by
    rw [paramType_eq, List.countP_eq_length_filter, filter_widenUint (by decide),
      ← List.countP_eq_length_filter]
    exact ((flatten_typeWords_start piece).sublist.trans List.filter_sublist).countP_le
  obtain ⟨hle, hlt⟩ := letters_dropLocations piece
  exact ⟨htype.trans hle, fun h => htype.trans_lt (hlt h)⟩

/-- Reducing takes letters away where a location word stands. -/
theorem letters_reduceParams_lt {list : List Char} (h : HasLocation list) :
    (reduceParams list).countP isAsciiLetter < list.countP isAsciiLetter := by
  rw [← joinWith_splitParams list, hasLocation_joinWith] at h
  obtain ⟨piece, hpiece, hlocation⟩ := h
  calc (reduceParams list).countP isAsciiLetter
      = ((splitParams list).map fun piece => (paramType piece).countP isAsciiLetter).sum := by
        rw [reduceParams, countP_joinWith (by decide), List.countP_flatten, List.map_map]
        rfl
    _ < ((splitParams list).map fun piece => piece.countP isAsciiLetter).sum :=
        List.sum_lt_sum _ _ (fun piece _ => (letters_paramType piece).1)
          ⟨piece, hpiece, (letters_paramType piece).2 hlocation⟩
    _ = list.countP isAsciiLetter := by
        rw [← List.countP_flatten, ← countP_joinWith (by decide), joinWith_splitParams]

/-- A list of types is only widened. -/
theorem reduceParams_eq_widenUint {list : List Char} (hfree : ∀ c ∈ list, isBlank c = false)
    (hnone : ¬HasLocation list) : reduceParams list = widenUint list := by
  have htypes : (splitParams list).map paramType = (splitParams list).map widenUint := by
    refine List.map_congr_left fun piece hpiece => ?_
    have hstands : piece <:+: list := joinWith_splitParams list ▸ isInfix_joinWith hpiece
    refine paramType_eq_widenUint (fun c hc => hfree c (hstands.subset hc)) fun hlocation => ?_
    rw [← joinWith_splitParams list, hasLocation_joinWith] at hnone
    exact hnone ⟨piece, hpiece, hlocation⟩
  calc reduceParams list
      = joinWith [','] ((splitParams list).map widenUint) := by rw [reduceParams, htypes]
    _ = widenUint (joinWith [','] (splitParams list)) := (mapWords_joinWith _ _).symm
    _ = widenUint list := by rw [joinWith_splitParams]

/-- A reduced parameter list is final exactly if it closes what it opens and no location word stands
in it. -/
theorem reduceParams_paramText_eq_iff {list : List Char} (hlist : Reduced list) :
    reduceParams (paramText (list ++ [')'])) = list ↔
      list.count ')' = list.count '(' ∧ ¬HasLocation list := by
  rw [paramText_concat hlist.inside]
  by_cases hpaired : list.count ')' = list.count '('
  · -- The same list is read again.
    rw [if_pos hpaired]
    by_cases hlocation : HasLocation list
    · -- A location word is dropped, and no list has fewer letters than itself.
      refine ⟨fun hfinal => ?_, fun h => absurd hlocation h.2⟩
      have hfewer := letters_reduceParams_lt hlocation
      rw [hfinal] at hfewer
      exact absurd hfewer (lt_irrefl _)
    · rw [reduceParams_eq_widenUint hlist.free hlocation, hlist.wide]
      exact ⟨fun _ => ⟨hpaired, hlocation⟩, fun _ => rfl⟩
  · -- The parenthesis after the list is read as part of it.
    rw [if_neg hpaired]
    refine ⟨fun hfinal => ?_, fun h => absurd h.1 hpaired⟩
    by_cases hlocation : HasLocation (list ++ [')'])
    · have hfewer := letters_reduceParams_lt hlocation
      rw [hfinal, List.countP_append] at hfewer
      exact absurd hfewer (lt_irrefl _)
    · have hfree : ∀ c ∈ list ++ [')'], isBlank c = false := by
        intro c hc
        rcases List.mem_append.mp hc with hc | hc
        · exact hlist.free c hc
        · rw [List.mem_singleton.mp hc]
          decide
      rw [reduceParams_eq_widenUint hfree hlocation, widenUint_append_cons (by decide),
        hlist.wide] at hfinal
      simp at hfinal

/-! ## Signatures -/

/-- The types of a signature are reduced. -/
theorem reduced_of_mem_types {signature type : List Char} (htype : type ∈ types signature) :
    Reduced type := by
  rw [types] at htype
  split at htype
  · cases htype
  · split at htype
    · cases htype
    · obtain ⟨piece, hpiece, rfl⟩ := List.mem_map.mp htype
      exact reduced_paramType (staysInside_of_mem_splitParams (staysInside_paramText _) hpiece)

/-- Texts that close no more than they open close what they open together exactly if each does. -/
theorem count_joinWith_eq_iff {texts : List (List Char)}
    (htexts : ∀ text ∈ texts, text.count ')' ≤ text.count '(') :
    (joinWith [','] texts).count ')' = (joinWith [','] texts).count '(' ↔
      ∀ text ∈ texts, text.count ')' = text.count '(' := by
  have hsum : ∀ c, (',' == c) = false →
      (joinWith [','] texts).count c = (texts.map (List.count c)).sum := by
    intro c hc
    exact (countP_joinWith hc texts).trans List.countP_flatten
  rw [hsum ')' (by decide), hsum '(' (by decide)]
  constructor
  · intro heq text htext
    by_contra hne
    have hlt : (texts.map (List.count ')')).sum < (texts.map (List.count '(')).sum :=
      List.sum_lt_sum _ _ htexts ⟨text, htext, lt_of_le_of_ne (htexts text htext) hne⟩
    omega
  · intro heach
    rw [List.map_congr_left heach]

/-- The reduced form of a signature is final exactly if every type in it closes what it opens and
holds no location word. -/
theorem normalize_normalize_eq_iff (signature : String) :
    normalize (normalize signature) = normalize signature ↔
      ∀ type ∈ types signature.toList, type.count '(' = type.count ')' ∧ ¬HasLocation type := by
  have htypes : ∀ type ∈ types signature.toList, type.count ')' ≤ type.count '(' := by
    intro type htype
    exact Nat.lt_succ_iff.mp ((reduced_of_mem_types htype).inside type (List.prefix_refl type))
  have hreduced : Reduced (joinWith [','] (types signature.toList)) :=
    .joinWith fun type htype => reduced_of_mem_types htype
  rw [normalize, normalize, String.toList_ofList, String.ofList_inj]
  by_cases hparen : '(' ∈ signature.toList
  · obtain ⟨name, afterOpen, hsignature, hname⟩ := List.eq_append_cons_of_mem hparen
    have htrim : '(' ∉ trimChars name := by
      rwa [← List.count_eq_zero, count_trimChars (by decide), List.count_eq_zero]
    -- The second reduction reads the name and the reduced list of the first.
    have hagain : normalizeChars (normalizeChars signature.toList) =
        trimChars name ++ '(' ::
          reduceParams (paramText (joinWith [','] (types signature.toList) ++ [')'])) ++ [')'] := by
      have honce := normalizeChars_append hname afterOpen
      rw [← hsignature, List.append_assoc, List.cons_append] at honce
      rw [honce, normalizeChars_append htrim, joinWith_types htrim, trimChars_trimChars]
    rw [hagain, hsignature, normalizeChars_append hname, ← hsignature, List.append_left_inj,
      List.append_right_inj, List.cons_inj_right, reduceParams_paramText_eq_iff hreduced,
      count_joinWith_eq_iff htypes, hasLocation_joinWith]
    constructor
    · rintro ⟨hpaired, hnone⟩ type htype
      exact ⟨(hpaired type htype).symm, fun hlocation => hnone ⟨type, htype, hlocation⟩⟩
    · intro hfinal
      refine ⟨fun type htype => (hfinal type htype).1.symm, ?_⟩
      rintro ⟨type, htype, hlocation⟩
      exact (hfinal type htype).2 hlocation
  · have htrim : '(' ∉ trimChars signature.toList := by
      rwa [← List.count_eq_zero, count_trimChars (by decide), List.count_eq_zero]
    rw [(normalizeChars_of_notMem hparen).1, (normalizeChars_of_notMem htrim).1,
      (normalizeChars_of_notMem hparen).2, trimChars_trimChars]
    simp

/-- Dropping the last word of a tuple leaves its parenthesis open, and the reduced form is reduced
once more to one with a parenthesis more. -/
theorem normalize_normalize_tuple_ne :
    normalize (normalize "f((uint a, uint b) memory)") ≠
      normalize "f((uint a, uint b) memory)" := by
  decide +kernel

end TokenAudit.Signature
