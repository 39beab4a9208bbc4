import TokenAudit.Files.FileSystem
import TokenAudit.Proofs.Text.Words

/-!
# The steps of a path

What a path means is its list of steps. An entry of a directory adds one step to those of the
directory, and steps that are written out are read back.

## Main definitions

* `IsEntry`: the names that an entry of a directory can have.
* `Component.part?`: what a step contributes to a walk.
* `Path.Spelled`: the lists of steps that paths have.

## Main results

* `isPlainName_iff`: the names that can serve as a directory name.
* `Path.components_child`: the steps of an entry of a directory.
* `Path.components_ofComponents`: steps that are written out are read back.
* `Path.filter_parts`: a walk along a path takes its steps.
-/

namespace TokenAudit

open Text

/-! ## Pieces between separators -/

theorem splitAt_ne_nil (sep : Char) (text : List Char) : splitAt sep text ≠ [] := by
  rw [splitAt_eq_splitOn]
  exact List.splitOn_ne_nil sep text

/-- A separator divides the pieces before it from those after it. -/
theorem splitAt_append (sep : Char) (text rest : List Char) :
    splitAt sep (text ++ sep :: rest) = splitAt sep text ++ splitAt sep rest := by
  induction text with
  | nil => simp [splitAt]
  | cons c text ih =>
    rw [List.cons_append, splitAt, splitAt, ih]
    split
    · rfl
    · obtain ⟨piece, pieces, hpieces⟩ := List.exists_cons_of_ne_nil (splitAt_ne_nil sep text)
      rw [hpieces]
      rfl

/-- A text without separators is one piece. -/
theorem splitAt_of_notMem {sep : Char} {text : List Char} (h : sep ∉ text) :
    splitAt sep text = [text] := by
  induction text with
  | nil => rfl
  | cons c text ih =>
    rw [List.mem_cons, not_or] at h
    rw [splitAt, if_neg (by simpa using Ne.symm h.1), ih h.2]

/-- No piece holds a separator. -/
theorem notMem_of_mem_splitAt {sep : Char} {text piece : List Char}
    (h : piece ∈ splitAt sep text) : sep ∉ piece := by
  induction text generalizing piece with
  | nil =>
    rw [splitAt, List.mem_singleton] at h
    simp [h]
  | cons c text ih =>
    rw [splitAt] at h
    split at h
    · rcases List.mem_cons.mp h with rfl | h
      · exact List.not_mem_nil
      · exact ih h
    · next hc =>
      obtain ⟨first, pieces, hpieces⟩ := List.exists_cons_of_ne_nil (splitAt_ne_nil sep text)
      rw [hpieces] at h ih
      rcases List.mem_cons.mp h with rfl | h
      · rw [List.mem_cons, not_or]
        exact ⟨fun heq => hc (by simp [heq]), ih List.mem_cons_self⟩
      · exact ih (List.mem_cons_of_mem _ h)

/-! ## Steps -/

/-- A name that an entry of a directory can have. -/
def IsEntry (name : String) : Prop :=
  name ≠ "" ∧ name ≠ "." ∧ name ≠ ".." ∧ '/' ∉ name.toList

instance (name : String) : Decidable (IsEntry name) :=
  inferInstanceAs (Decidable (_ ∧ _ ∧ _ ∧ _))

/-- Whether a part of a path leads elsewhere. -/
def FileSystem.leadsOn (part : String) : Bool :=
  !(part.isEmpty || part == ".")

namespace Component

/-- A step that can stand anywhere in a path. -/
def IsInner : Component → Prop
  | root => False
  | current => False
  | parent => True
  | normal name => IsEntry name

/-- What a step contributes to a walk. -/
def part? : Component → Option String
  | root => none
  | current => none
  | parent => some ".."
  | normal name => some name

theorem ofPart?_toList {name : String} (h : IsEntry name) :
    ofPart? name.toList = some (normal name) := by
  obtain ⟨hempty, hdot, hup, _⟩ := h
  rw [ne_eq, ← String.toList_inj] at hempty hdot hup
  unfold ofPart?
  split
  · next heq => exact absurd heq hempty
  · next heq => exact absurd heq hdot
  · next heq => exact absurd heq hup
  · rw [String.ofList_toList]

/-- The steps that a piece without separators gives can stand anywhere. -/
theorem isInner_of_ofPart?_eq_some {part : List Char} {step : Component} (hpart : '/' ∉ part)
    (h : ofPart? part = some step) : step.IsInner := by
  unfold ofPart? at h
  split at h
  · cases h
  · cases h
  · cases h
    exact trivial
  · next hempty hdot hup =>
    cases h
    refine ⟨?_, ?_, ?_, by simpa using hpart⟩
    all_goals
      rw [ne_eq, ← String.toList_inj, String.toList_ofList]
      assumption

/-- A step that can stand anywhere is read back from its text. -/
theorem ofPart?_text {step : Component} (h : step.IsInner) :
    ofPart? step.text.toList = some step := by
  cases step with
  | root => exact h.elim
  | current => exact h.elim
  | parent => rfl
  | normal name => exact ofPart?_toList h

theorem notMem_text {step : Component} (h : step.IsInner) : '/' ∉ step.text.toList := by
  cases step with
  | root => exact h.elim
  | current => exact h.elim
  | parent => simp [text]
  | normal name => exact h.2.2.2

theorem text_ne_nil {step : Component} (h : step.IsInner) : step.text.toList ≠ [] := by
  intro hnil
  have hread := ofPart?_text h
  rw [hnil] at hread
  cases hread

theorem text_ne_dot {step : Component} (h : step.IsInner) : step.text.toList ≠ ['.'] := by
  intro hdot
  have hread := ofPart?_text h
  rw [hdot] at hread
  cases hread

end Component

namespace Path

/-- What the beginning of a path adds to its steps. -/
def lead (chars : List Char) : List Component :=
  if chars.head? = some '/' then [.root]
  else if (splitAt '/' chars).head? = some ['.'] then [.current]
  else []

theorem components_eq (path : Path) :
    path.components =
      lead path.text.toList ++ (splitAt '/' path.text.toList).filterMap Component.ofPart? := by
  simp only [components, isAbsolute, lead, beq_iff_eq]
  split
  · rfl
  · split <;> rfl

/-- The beginning of a path does not depend on what follows a separator. -/
theorem lead_append (text rest : List Char) :
    lead (text ++ '/' :: rest) = lead (text ++ ['/']) := by
  have hhead : (text ++ '/' :: rest).head? = (text ++ ['/']).head? := by
    cases text <;> rfl
  have hpieces :
      (splitAt '/' (text ++ '/' :: rest)).head? = (splitAt '/' (text ++ ['/'])).head? := by
    obtain ⟨piece, pieces, h⟩ := List.exists_cons_of_ne_nil (splitAt_ne_nil '/' text)
    rw [splitAt_append, splitAt_append, h]
    rfl
  rw [lead, lead, hhead, hpieces]

/-- A separator at the end of a path adds nothing to its beginning. -/
theorem lead_concat {text : List Char} (h : text ≠ []) : lead (text ++ ['/']) = lead text := by
  have hhead : (text ++ ['/']).head? = text.head? := by
    cases text with
    | nil => exact absurd rfl h
    | cons c rest => rfl
  have hpieces : (splitAt '/' (text ++ ['/'])).head? = (splitAt '/' text).head? := by
    obtain ⟨piece, pieces, hsplit⟩ := List.exists_cons_of_ne_nil (splitAt_ne_nil '/' text)
    rw [splitAt_append, hsplit]
    rfl
  rw [lead, lead, hhead, hpieces]

theorem lead_of_isEntry {name : String} (h : IsEntry name) : lead name.toList = [] := by
  have hdot : name.toList ≠ ['.'] := fun heq => h.2.1 (String.toList_inj.mp heq)
  have hhead : name.toList.head? ≠ some '/' := fun heq => h.2.2.2 (List.mem_of_mem_head? heq)
  rw [lead, if_neg hhead, splitAt_of_notMem h.2.2.2]
  simp [hdot]

/-- The path of an entry of a directory: a separator is put in where one is needed. -/
theorem toList_child (base : Path) {name : String} (h : '/' ∉ name.toList) :
    (base.text = "" ∧ (base.child name).text = name) ∨
    ∃ text, (base.child name).text.toList = text ++ '/' :: name.toList ∧
      (base.text.toList = text ++ ['/'] ∨ base.text.toList = text ∧ text ≠ []) := by
  have habsolute : (Path.mk name).isAbsolute = false := by
    rw [isAbsolute, beq_eq_false_iff_ne]
    exact fun heq => h (List.mem_of_mem_head? heq)
  rw [child, join, if_neg (by simp [habsolute])]
  split
  · next hsep =>
    rw [Bool.or_eq_true, String.isEmpty_iff, beq_iff_eq] at hsep
    rcases hsep with hempty | hlast
    · exact .inl ⟨hempty, by simp [hempty]⟩
    · obtain ⟨text, htext⟩ := List.getLast?_eq_some_iff.mp hlast
      exact .inr ⟨text, by simp [htext], .inl htext⟩
  · next hsep =>
    rw [Bool.or_eq_true, String.isEmpty_iff, not_or] at hsep
    refine .inr ⟨base.text.toList, by simp, .inr ⟨rfl, fun heq => hsep.1 ?_⟩⟩
    exact String.toList_inj.mp heq

/-- An entry of a directory has one more step. -/
theorem components_child (base : Path) {name : String} (h : IsEntry name) :
    (base.child name).components = base.components ++ [.normal name] := by
  have hpiece : (splitAt '/' name.toList).filterMap Component.ofPart? = [.normal name] := by
    simp [splitAt_of_notMem h.2.2.2, Component.ofPart?_toList h]
  rw [components_eq, components_eq]
  rcases toList_child base h.2.2.2 with ⟨hbase, hchild⟩ | ⟨text, hchild, hbase | ⟨hbase, hne⟩⟩
  · rw [hbase, hchild, lead_of_isEntry h, hpiece]
    rfl
  · rw [hbase, hchild, lead_append, splitAt_append, splitAt_append, List.filterMap_append,
      List.filterMap_append, hpiece, List.append_assoc, List.append_assoc]
    rfl
  · rw [hbase, hchild, lead_append, lead_concat hne, splitAt_append, List.filterMap_append, hpiece,
      List.append_assoc]

/-- Names lead on from a directory, one step each. -/
theorem components_foldl_child (base : Path) {names : List String}
    (h : ∀ name ∈ names, IsEntry name) :
    (names.foldl child base).components = base.components ++ names.map .normal := by
  induction names generalizing base with
  | nil => simp
  | cons name rest ih =>
    rw [List.foldl_cons, ih _ fun other hother => h other (List.mem_cons_of_mem name hother),
      components_child base (h name List.mem_cons_self), List.map_cons, List.append_assoc]
    rfl

/-- The lists of steps that paths have: only the first step can be the root or the directory where
the path starts. -/
def Spelled (steps : List Component) : Prop :=
  ∃ first inner, steps = first ++ inner ∧ (first = [] ∨ first = [.root] ∨ first = [.current]) ∧
    ∀ step ∈ inner, step.IsInner

theorem spelled_components (path : Path) : Spelled path.components := by
  rw [components_eq]
  refine ⟨_, _, rfl, ?_, fun step hstep => ?_⟩
  · unfold lead
    split
    · exact .inr (.inl rfl)
    · split
      · exact .inr (.inr rfl)
      · exact .inl rfl
  · obtain ⟨part, hpart, hread⟩ := List.mem_filterMap.mp hstep
    exact Component.isInner_of_ofPart?_eq_some (notMem_of_mem_splitAt hpart) hread

/-- A beginning of the steps of a path are the steps of a path. -/
theorem Spelled.front {steps longer : List Component} (h : Spelled longer)
    (hfront : steps <+: longer) : Spelled steps := by
  obtain ⟨first, inner, rfl, hfirst, hinner⟩ := h
  obtain ⟨after, hafter⟩ := hfront
  rcases List.append_eq_append_iff.mp hafter with ⟨more, hshort, _⟩ | ⟨rest, hsteps, hrest⟩
  · refine ⟨steps, [], by simp, ?_, by simp⟩
    rcases hfirst with rfl | rfl | rfl
    · exact .inl (List.append_eq_nil_iff.mp hshort.symm).1
    · rcases List.append_eq_singleton_iff.mp hshort.symm with ⟨hnil, _⟩ | ⟨hroot, _⟩
      · exact .inl hnil
      · exact .inr (.inl hroot)
    · rcases List.append_eq_singleton_iff.mp hshort.symm with ⟨hnil, _⟩ | ⟨hcurrent, _⟩
      · exact .inl hnil
      · exact .inr (.inr hcurrent)
  · exact ⟨first, rest, hsteps, hfirst, fun step hstep =>
      hinner step (hrest ▸ List.mem_append_left after hstep)⟩

/-- The pieces of steps that are written out are the texts of the steps. -/
theorem splitAt_intercalate {steps : List Component} (hne : steps ≠ [])
    (h : ∀ step ∈ steps, '/' ∉ step.text.toList) :
    splitAt '/' ("/".intercalate (steps.map (·.text))).toList = steps.map (·.text.toList) := by
  rw [splitAt_eq_splitOn, String.toList_intercalate, List.map_map]
  refine List.splitOn_intercalate '/' ?_ (by simpa using hne)
  intro piece hpiece
  obtain ⟨step, hstep, rfl⟩ := List.mem_map.mp hpiece
  exact h step hstep

theorem filterMap_ofPart?_text {steps : List Component} (h : ∀ step ∈ steps, step.IsInner) :
    (steps.map (·.text.toList)).filterMap Component.ofPart? = steps := by
  induction steps with
  | nil => rfl
  | cons step rest ih =>
    rw [List.map_cons,
      List.filterMap_cons_some (Component.ofPart?_text (h step List.mem_cons_self)),
      ih fun other hother => h other (List.mem_cons_of_mem step hother)]

/-- What a first piece that is not empty adds to the steps. -/
theorem lead_of_splitAt {chars piece : List Char} {pieces : List (List Char)}
    (h : splitAt '/' chars = piece :: pieces) (hempty : piece ≠ []) :
    lead chars = if piece = ['.'] then [.current] else [] := by
  have hhead : chars.head? ≠ some '/' := by
    intro hsep
    obtain ⟨rest, rfl⟩ := List.head?_eq_some_iff.mp hsep
    rw [splitAt, if_pos (by simp)] at h
    exact hempty (List.cons.inj h).1.symm
  rw [lead, if_neg hhead, h, List.head?_cons]
  simp only [Option.some.injEq]

/-- Steps that are written out are read back. -/
theorem components_ofComponents {steps : List Component} (h : Spelled steps) :
    (ofComponents steps).components = steps := by
  obtain ⟨first, inner, rfl, hfirst, hinner⟩ := h
  have hfree : ∀ step ∈ inner, '/' ∉ step.text.toList :=
    fun step hstep => Component.notMem_text (hinner step hstep)
  rw [components_eq]
  rcases hfirst with rfl | rfl | rfl
  · cases inner with
    | nil => rfl
    | cons step rest =>
      have hstep : Component.IsInner step := hinner step List.mem_cons_self
      have hpieces := splitAt_intercalate (List.cons_ne_nil step rest) hfree
      have htext : ofComponents (step :: rest) =
          ⟨"/".intercalate ((step :: rest).map (·.text))⟩ := by
        cases step with
        | root => exact hstep.elim
        | _ => rfl
      rw [List.nil_append, htext, hpieces, filterMap_ofPart?_text hinner,
        lead_of_splitAt hpieces (Component.text_ne_nil hstep), if_neg (Component.text_ne_dot hstep),
        List.nil_append]
  · have hsteps : (splitAt '/' ("/".intercalate (inner.map (·.text))).toList).filterMap
        Component.ofPart? = inner := by
      by_cases hne : inner = []
      · simp [hne, splitAt, Component.ofPart?]
      · rw [splitAt_intercalate hne hfree, filterMap_ofPart?_text hinner]
    simp only [List.singleton_append, ofComponents, String.toList_append]
    rw [show "/".toList = ['/'] from rfl, List.singleton_append, splitAt, if_pos (by simp),
      List.filterMap_cons_none rfl, hsteps]
    rfl
  · have hpieces := splitAt_intercalate (List.cons_ne_nil .current inner)
      (List.forall_mem_cons.mpr ⟨by decide, hfree⟩)
    have hchars : (ofComponents (.current :: inner)).text =
        "/".intercalate ((.current :: inner : List Component).map (·.text)) := rfl
    rw [List.singleton_append, hchars, lead_of_splitAt hpieces (by decide), hpieces, List.map_cons]
    exact congrArg (Component.current :: ·) (filterMap_ofPart?_text hinner)

/-! ## Walks along paths -/

/-- A piece of a path contributes itself to a walk if it leads elsewhere. -/
theorem part?_ofPart? (piece : List Char) :
    (Component.ofPart? piece).bind Component.part? =
      if FileSystem.leadsOn (String.ofList piece) then some (String.ofList piece) else none := by
  unfold Component.ofPart?
  split
  · rfl
  · rfl
  · rfl
  · next hempty hdot hup =>
    have hdot' : String.ofList piece ≠ "." := by
      rw [ne_eq, ← String.toList_inj, String.toList_ofList]
      exact hdot
    have hleads : FileSystem.leadsOn (String.ofList piece) = true := by
      simpa [FileSystem.leadsOn] using ⟨hempty, hdot'⟩
    rw [if_pos hleads]
    rfl

/-- The parts of a path that lead elsewhere are those that its steps contribute. -/
theorem filter_parts (path : Path) :
    (FileSystem.parts path.text).filter FileSystem.leadsOn =
      path.components.filterMap Component.part? := by
  have hlead : (lead path.text.toList).filterMap Component.part? = [] := by
    unfold lead
    split
    · rfl
    · split <;> rfl
  rw [components_eq, List.filterMap_append, hlead, List.nil_append, List.filterMap_filterMap,
    FileSystem.parts, ← List.filterMap_eq_filter, List.filterMap_map]
  refine congrArg (fun f => List.filterMap f _) (funext fun piece => ?_)
  rw [part?_ofPart?]
  rfl

/-- Whether a path starts at the root can be seen from its steps. -/
theorem isAbsolute_iff (path : Path) :
    path.isAbsolute = true ↔ path.components.head? = some .root := by
  rw [isAbsolute, beq_iff_eq, components_eq, lead]
  by_cases hhead : path.text.toList.head? = some '/'
  · simp [hhead]
  · rw [if_neg hhead]
    refine iff_of_false hhead ?_
    split
    · simp
    · -- The root is no step inside a path.
      intro hroot
      obtain ⟨part, hpart, hread⟩ := List.mem_filterMap.mp (List.mem_of_mem_head? hroot)
      exact Component.isInner_of_ofPart?_eq_some (notMem_of_mem_splitAt hpart) hread

end Path

/-! ## Plain names -/

/-- A name that does not start with a dot is neither the directory itself nor the one above. -/
theorem isEntry_of_head?_ne {name : String} (hempty : name ≠ "")
    (hdot : name.toList.head? ≠ some '.') (hslash : '/' ∉ name.toList) : IsEntry name := by
  refine ⟨hempty, ?_, ?_, hslash⟩
  · rintro rfl
    exact hdot rfl
  · rintro rfl
    exact hdot rfl

/-- A plain name is not empty, does not start with a dot, and holds no separator of any platform. -/
theorem isPlainName_iff (name : String) :
    isPlainName name = true ↔ name ≠ "" ∧ name.toList.head? ≠ some '.' ∧
      '/' ∉ name.toList ∧ '\\' ∉ name.toList := by
  have hany : name.toList.any (fun c => c == '/' || c == '\\') = false ↔
      '/' ∉ name.toList ∧ '\\' ∉ name.toList := by
    rw [List.any_eq_false]
    constructor
    · intro h
      exact ⟨fun hsep => h _ hsep rfl, fun hsep => h _ hsep rfl⟩
    · rintro ⟨hslash, hback⟩ c hc hsep
      rcases Bool.or_eq_true_iff.mp hsep with heq | heq
      · exact hslash (beq_iff_eq.mp heq ▸ hc)
      · exact hback (beq_iff_eq.mp heq ▸ hc)
  rw [isPlainName, Bool.and_eq_true, Bool.and_eq_true, bne_iff_ne, Bool.not_eq_true', hany]
  constructor
  · rintro ⟨⟨hdot, hslash, hback⟩, hcomponents⟩
    refine ⟨?_, hdot, hslash, hback⟩
    rintro rfl
    cases hcomponents
  · rintro ⟨hempty, hdot, hslash, hback⟩
    have hentry : IsEntry name := isEntry_of_head?_ne hempty hdot hslash
    have hcomponents : (Path.mk name).components = [.normal name] := by
      simp [Path.components_eq, Path.lead_of_isEntry hentry, splitAt_of_notMem hslash,
        Component.ofPart?_toList hentry]
    exact ⟨⟨hdot, hslash, hback⟩, by rw [hcomponents]⟩

theorem isEntry_of_isPlainName {name : String} (h : isPlainName name = true) : IsEntry name := by
  obtain ⟨hempty, hdot, hsep, _⟩ := (isPlainName_iff name).mp h
  exact isEntry_of_head?_ne hempty hdot hsep

end TokenAudit
