import TokenAudit.Proofs.Pattern.Marks
import TokenAudit.Proofs.Pattern.Sequences
import TokenAudit.Proofs.Pattern.Size

/-!
# Names in written patterns

A rule can be written as text: names are escaped, and `\s*` stands between them. Whatever the names
are, such a text is read as the characters of the names and the blanks between them, so what it
finds is what the sequence of texts and blanks finds. Its machines are those of the sequence as
well, so the text is refused as too large exactly if the sequence is.

## Main definitions

* `Written.Part`: a text that stands for itself, or blanks.
* `Written.written`, `Written.patternOf`: the parts as a written pattern, and as a pattern.
* `Written.comparison`: two names with a sign between them.
* `Written.SmallEnough`: what a text writes is not too large.
* `Written.Shape.MadeAs`: a shape has the states of several shapes one after the other.
* `Written.Shape.Floats`: a shape can stand anywhere in a text.

## Main results

* `Written.read?_written`: how a pattern of such parts is read.
* `Written.parse?_written`: it is accepted unless it is too large.
* `Written.isMatch_meaning`: it finds what the sequence of its parts finds.
* `Written.fits_meaning`: it is too large exactly if the sequence of its parts is.
* `Written.anyMatch_parseAll_written`: a set of such texts finds what the sequences find.
-/

namespace TokenAudit.Written

open Unicode (isBlank whiteSpace contains_whiteSpace)

/-! ## Parts -/

/-- A part of a pattern into which names are spliced. -/
inductive Part
  /-- A text that stands for itself. -/
  | text (chars : String)
  /-- Any number of blanks. -/
  | blanks

namespace Part

/-- The part as it is written: texts are escaped. -/
def written : Part → List Char
  | text chars => (escape chars).toList
  | blanks => ['\\', 's', '*']

/-- The pattern that the part stands for. -/
def pattern : Part → Pattern
  | text chars => .lit chars
  | blanks => .blanks

/-- What is read of the part. -/
def trees : Part → List Tree
  | text chars => chars.toList.map fun c => .literal .start ⟨c, false⟩
  | blanks => [.repeated true ⟨0, none⟩ (.letter .start false .blank)]

/-- What the part means. -/
def shapes : Part → List Shape
  | text chars => chars.toList.map fun c => .text [c]
  | blanks => [.repeated true ⟨0, none⟩ (.one whiteSpace)]

end Part

/-- The parts one after the other, as they are written. -/
def written (parts : List Part) : String :=
  String.ofList (parts.flatMap Part.written)

/-- The parts one after the other, as a pattern. -/
def patternOf (parts : List Part) : Pattern :=
  .sequence (parts.map Part.pattern)

/-- The parts of a comparison. -/
def comparison (left sign right : String) : List Part :=
  [.text left, .blanks, .text sign, .blanks, .text right]

/-! ## Reading -/

/-- A character without a meaning of its own is read as itself. -/
theorem readGroup?_plain {c : Char} (hc : metaChars.contains c = false) {state : GroupState}
    (hflags : state.flags.verbose = false) (fuel : Nat) (rest : List Char) :
    readGroup? (fuel + 1) state (c :: rest) =
      readGroup? fuel (state.push (.literal state.flags ⟨c, false⟩)) rest := by
  have hne : ∀ d ∈ metaChars, c ≠ d := by
    intro d hd h
    subst h
    simp [hd] at hc
  simp only [metaChars, List.forall_mem_cons] at hne
  rw [readGroup?]
  simp only [hflags, skipSpace, Bool.false_eq_true, if_false]
  split <;> simp_all

/-- So is a character after a backslash that takes away its meaning. -/
theorem readGroup?_escaped {c : Char} (hc : isEscapable c = true) {state : GroupState}
    (hflags : state.flags.verbose = false) (fuel : Nat) (rest : List Char) :
    readGroup? (fuel + 1) state ('\\' :: c :: rest) =
      readGroup? fuel (state.push (.literal state.flags ⟨c, false⟩)) rest := by
  have hescape : readEscape? false (c :: rest) = some (.literal ⟨c, false⟩, rest) :=
    if_pos hc
  rw [readGroup?]
  simp only [hflags, skipSpace, Bool.false_eq_true, if_false, hescape]
  rfl

/-- Repeated blanks are read as such, unless a question mark follows. -/
theorem readGroup?_blanks {state : GroupState} (hflags : state.flags = .start) (fuel : Nat)
    {rest : List Char} (hrest : rest.head? ≠ some '?') :
    readGroup? (fuel + 2) state ('\\' :: 's' :: '*' :: rest) =
      readGroup? fuel
        (state.push (.repeated true ⟨0, none⟩ (.letter .start false .blank))) rest := by
  have hgreedy : readLazy rest = (true, rest) := by
    cases rest with
    | nil => rfl
    | cons c rest =>
      rw [readLazy]
      rintro _ ⟨⟩
      exact hrest rfl
  have hescape : readEscape? false ('s' :: '*' :: rest) =
      some (.letter false .blank, '*' :: rest) := rfl
  rw [readGroup?]
  simp only [hflags, Flags.start, skipSpace, Bool.false_eq_true, if_false, hescape]
  rw [readGroup?]
  simp only [GroupState.pushEscaped, GroupState.push, hflags, Flags.start, skipSpace,
    Bool.false_eq_true, if_false, hgreedy, GroupState.repeatLast?]
  rfl

/-- The parts read so far, with more of them. -/
def GroupState.pushAll (state : GroupState) (trees : List Tree) : GroupState :=
  { state with parts := trees.reverse ++ state.parts }

theorem pushAll_push (state : GroupState) (tree : Tree) (trees : List Tree) :
    (state.push tree).pushAll trees = state.pushAll (tree :: trees) := by
  simp [GroupState.pushAll, GroupState.push]

theorem pushAll_pushAll (state : GroupState) (trees trees' : List Tree) :
    (state.pushAll trees).pushAll trees' = state.pushAll (trees ++ trees') := by
  simp [GroupState.pushAll]

/-- The escaped form of a text, character by character. -/
theorem toList_escape (text : String) :
    (escape text).toList =
      text.toList.flatMap fun c => if metaChars.contains c then ['\\', c] else [c] :=
  String.toList_ofList

/-- Escaping makes no text shorter. -/
theorem length_le_length_escape (chars : List Char) :
    chars.length ≤
      (chars.flatMap fun c => if metaChars.contains c then ['\\', c] else [c]).length := by
  induction chars with
  | nil => exact Nat.le_refl 0
  | cons c chars ih =>
    rw [List.flatMap_cons, List.length_append, List.length_cons]
    split <;> simp only [List.length_cons, List.length_nil] <;> omega

/-- Every character of an escaped text is read as itself, one for each unit of fuel. -/
theorem readGroup?_escape (chars : List Char) (state : GroupState) (hflags : state.flags = .start)
    (fuel : Nat) (rest : List Char) :
    readGroup? (chars.length + fuel) state
        ((chars.flatMap fun c => if metaChars.contains c then ['\\', c] else [c]) ++ rest) =
      readGroup? fuel (state.pushAll (chars.map fun c => .literal .start ⟨c, false⟩)) rest := by
  induction chars generalizing state with
  | nil => rw [List.length_nil, Nat.zero_add]; rfl
  | cons c chars ih =>
    have hverbose : state.flags.verbose = false := by rw [hflags]; rfl
    have hescapable : ∀ d ∈ metaChars, isEscapable d = true :=
      List.all_eq_true.mp (by decide)
    rw [List.length_cons, Nat.add_right_comm, List.flatMap_cons, List.append_assoc, List.map_cons,
      ← pushAll_push, ← ih (state.push _) hflags]
    split
    · next hmeta =>
      rw [← hflags]
      exact readGroup?_escaped (hescapable c (List.contains_iff_mem.mp hmeta)) hverbose _ _
    · next hplain =>
      rw [← hflags]
      exact readGroup?_plain (Bool.eq_false_iff.mpr hplain) hverbose _ _

/-- No part is written with a question mark first. -/
theorem head?_flatMap_written (parts : List Part) :
    (parts.flatMap Part.written).head? ≠ some '?' := by
  induction parts with
  | nil => simp
  | cons part parts ih =>
    cases part with
    | blanks => simp [Part.written]
    | text chars =>
      rw [List.flatMap_cons, Part.written, toList_escape]
      cases chars.toList with
      | nil => exact ih
      | cons c rest =>
        rw [List.flatMap_cons]
        split
        · simp
        · next hplain =>
          rintro hc
          obtain rfl : c = '?' := by simpa using hc
          exact hplain (by decide)

/-- The parts are read one after the other. -/
theorem readGroup?_parts (parts : List Part) (state : GroupState) (hflags : state.flags = .start) :
    ∃ steps ≤ (parts.flatMap Part.written).length, ∀ fuel,
      readGroup? (steps + fuel) state (parts.flatMap Part.written) =
        readGroup? fuel (state.pushAll (parts.flatMap Part.trees)) [] := by
  induction parts generalizing state with
  | nil => exact ⟨0, Nat.le_refl 0, fun fuel => by rw [Nat.zero_add]; rfl⟩
  | cons part parts ih =>
    obtain ⟨steps, hsteps, hread⟩ := ih (state.pushAll part.trees) hflags
    simp only [List.flatMap_cons, List.length_append, ← pushAll_pushAll]
    cases part with
    | text chars =>
      refine ⟨chars.toList.length + steps, ?_, fun fuel => ?_⟩
      · refine Nat.add_le_add ?_ hsteps
        rw [Part.written, toList_escape]
        exact length_le_length_escape chars.toList
      · rw [Nat.add_assoc, Part.written, toList_escape, readGroup?_escape _ _ hflags]
        exact hread fuel
    | blanks =>
      refine ⟨2 + steps, Nat.add_le_add (by decide) hsteps, fun fuel => ?_⟩
      rw [Nat.add_assoc, Nat.add_comm 2]
      refine (readGroup?_blanks hflags (steps + fuel) (head?_flatMap_written parts)).trans ?_
      exact hread fuel

/-- A pattern of parts is read as these parts. -/
theorem read?_written (parts : List Part) :
    Tree.read? (written parts).toList = some (.ofParts (parts.flatMap Part.trees)) := by
  obtain ⟨steps, hsteps, hread⟩ := readGroup?_parts parts .start rfl
  have htext : (written parts).toList = parts.flatMap Part.written := String.toList_ofList
  obtain ⟨extra, hextra⟩ := Nat.exists_eq_add_of_le hsteps
  rw [Tree.read?, htext, hextra, Nat.add_assoc, hread]
  have hend : ∀ state, readGroup? (extra + 1) state [] = some (state, []) := by
    intro state
    rw [readGroup?]
    cases state.flags.verbose <;> rfl
  rw [hend]
  simp [GroupState.close, GroupState.pushAll, GroupState.start, Tree.ofBranches]

/-! ## Meaning -/

theorem shapes?_append {first second : List Tree} {shapes shapes' : List Shape}
    (hfirst : Tree.shapes? first = some shapes) (hsecond : Tree.shapes? second = some shapes') :
    Tree.shapes? (first ++ second) = some (shapes ++ shapes') := by
  induction first generalizing shapes with
  | nil =>
    obtain rfl : shapes = [] := by simpa [Tree.shapes?] using hfirst.symm
    exact hsecond
  | cons tree rest ih =>
    rw [Tree.shapes?] at hfirst
    obtain ⟨shape, hshape, hrest⟩ := Option.bind_eq_some_iff.mp hfirst
    obtain ⟨later, hlater, hshapes⟩ := Option.bind_eq_some_iff.mp hrest
    obtain rfl : shape :: later = shapes := Option.some.inj hshapes
    rw [List.cons_append, Tree.shapes?, hshape, Option.bind_eq_bind, Option.bind_some, ih hlater]
    rfl

/-- White space is more than one character, so it stays a set. -/
theorem ofSet_whiteSpace : Shape.ofSet whiteSpace = .one whiteSpace := by
  rw [Unicode.whiteSpace_eq]
  rfl

/-- A character means itself. -/
theorem shape?_literal (c : Char) :
    (Tree.literal .start ⟨c, false⟩).shape? = some (.text [c]) := by
  have hset : Shape.ofSet (.single c.toNat) = .text [c] := by
    simp [Shape.ofSet, Unicode.CodeSet.single]
  rw [Tree.shape?]
  exact congrArg some hset

/-- Repeated blanks mean the characters of white space, repeated. -/
theorem shape?_blanks :
    (Tree.repeated true ⟨0, none⟩ (.letter .start false .blank)).shape? =
      some (.repeated true ⟨0, none⟩ (.one whiteSpace)) := by
  rw [Tree.shape?, Tree.shape?]
  exact congrArg (fun body => some (Shape.ofRounds true ⟨0, none⟩ body)) ofSet_whiteSpace

/-- What is read of parts means what the parts mean. -/
theorem shapes?_parts (parts : List Part) :
    Tree.shapes? (parts.flatMap Part.trees) = some (parts.flatMap Part.shapes) := by
  induction parts with
  | nil => rfl
  | cons part parts ih =>
    refine shapes?_append ?_ ih
    cases part with
    | text chars =>
      rw [Part.trees, Part.shapes]
      induction chars.toList with
      | nil => rfl
      | cons c rest ihRest =>
        rw [List.map_cons, Tree.shapes?, shape?_literal, ihRest]
        rfl
    | blanks =>
      rw [Part.trees, Tree.shapes?, shape?_blanks]
      rfl

/-- Texts and repetitions are not taken apart in a sequence. -/
theorem parts_of_mem_shapes {parts : List Part} {shape : Shape}
    (h : shape ∈ parts.flatMap Part.shapes) : shape.parts = [shape] := by
  obtain ⟨part, _, hshape⟩ := List.mem_flatMap.mp h
  cases part with
  | text chars =>
    obtain ⟨c, _, rfl⟩ := List.mem_map.mp hshape
    rfl
  | blanks =>
    obtain rfl := List.mem_singleton.mp hshape
    rfl

/-- Several trees one after the other mean their shapes one after the other. -/
theorem shape?_ofParts {trees : List Tree} {shapes : List Shape}
    (h : Tree.shapes? trees = some shapes) (hparts : ∀ shape ∈ shapes, shape.parts = [shape]) :
    (Tree.ofParts trees).shape? = some (.ofParts shapes) := by
  match trees with
  | [] =>
    obtain rfl : [] = shapes := Option.some.inj h
    rfl
  | [tree] =>
    rw [Tree.shapes?] at h
    obtain ⟨shape, hshape, hrest⟩ := Option.bind_eq_some_iff.mp h
    obtain rfl : [shape] = shapes := Option.some.inj hrest
    rw [Tree.ofParts, hshape, Shape.ofParts, List.flatMap_singleton,
      hparts shape (List.mem_singleton_self _)]
    cases shape <;> rfl
  | first :: second :: rest =>
    rw [Tree.ofParts, Tree.shape?, h]
    · rfl
    · nofun
    · nofun

/-- What the parts mean together. -/
def meaning (parts : List Part) : Shape :=
  .ofParts (parts.flatMap Part.shapes)

theorem depths_trees (parts : List Part) : Tree.depths (parts.flatMap Part.trees) ≤ 1 := by
  have hdepth : ∀ trees : List Tree, (∀ tree ∈ trees, tree.depth ≤ 1) → Tree.depths trees ≤ 1 := by
    intro trees h
    induction trees with
    | nil => exact Nat.zero_le 1
    | cons tree rest ih =>
      obtain ⟨htree, hrest⟩ := List.forall_mem_cons.mp h
      rw [Tree.depths]
      exact Nat.max_le.mpr ⟨htree, ih hrest⟩
  refine hdepth _ fun tree htree => ?_
  obtain ⟨part, _, hpart⟩ := List.mem_flatMap.mp htree
  cases part with
  | text chars =>
    obtain ⟨c, _, rfl⟩ := List.mem_map.mp hpart
    exact Nat.zero_le 1
  | blanks =>
    obtain rfl := List.mem_singleton.mp hpart
    exact Nat.le_refl 1

theorem depth_ofParts {trees : List Tree} (h : Tree.depths trees ≤ 1) :
    (Tree.ofParts trees).depth ≤ 2 := by
  match trees with
  | [] => exact Nat.zero_le 2
  | [tree] =>
    rw [Tree.depths, Tree.depths] at h
    rw [Tree.ofParts]
    omega
  | first :: second :: rest => exact Nat.succ_le_succ h

/-- A pattern of parts is accepted with the meaning of its parts, unless it is too large. -/
theorem parse?_written (parts : List Part) :
    Shape.parse? (written parts) =
      if (meaning parts).fits then some (meaning parts) else none := by
  have hshape : (Tree.ofParts (parts.flatMap Part.trees)).shape? = some (meaning parts) :=
    shape?_ofParts (shapes?_parts parts) fun shape => parts_of_mem_shapes
  have hdepth : (Tree.ofParts (parts.flatMap Part.trees)).depth ≤ maxDepth :=
    Nat.le_trans (depth_ofParts (depths_trees parts)) (by decide)
  rw [Shape.parse?, read?_written, Option.bind_eq_bind, Option.bind_some, guard, if_pos hdepth,
    hshape]
  change ((if (meaning parts).fits then some () else none).bind fun _ => some (meaning parts)) = _
  by_cases hfits : (meaning parts).fits = true
  · rw [if_pos hfits, if_pos hfits, Option.bind_some]
  · rw [if_neg hfits, if_neg hfits, Option.bind_none]

/-! ## Searching -/

/-- Joining neighbouring characters does not change where marks are moved. -/
theorem advanceAll_joinText (text : List Char) (shapes : List Shape) (marks : Marks) :
    Shape.advanceAll text (Shape.joinText shapes) marks = Shape.advanceAll text shapes marks := by
  induction shapes generalizing marks with
  | nil => rfl
  | cons shape rest ih =>
    have hrest := ih (shape.advance text marks)
    unfold Shape.joinText
    split
    · next first second later hlater =>
      -- The marks after two texts are those after the texts joined.
      rw [hlater] at hrest
      refine Eq.trans ?_ hrest
      simp only [Shape.advanceAll, Shape.advance, List.foldl_append]
    · exact hrest

theorem flatMap_parts {shapes : List Shape} (hparts : ∀ shape ∈ shapes, shape.parts = [shape]) :
    shapes.flatMap Shape.parts = shapes := by
  rw [List.flatMap_congr hparts]
  simp

theorem advance_ofParts {shapes : List Shape} (hparts : ∀ shape ∈ shapes, shape.parts = [shape])
    (text : List Char) (marks : Marks) :
    (Shape.ofParts shapes).advance text marks = Shape.advanceAll text shapes marks := by
  rw [← advanceAll_joinText, Shape.ofParts, flatMap_parts hparts]
  match Shape.joinText shapes with
  | [] => rfl
  | [shape] => rfl
  | first :: second :: rest => rfl

theorem advanceAll_append (text : List Char) (first second : List Shape) (marks : Marks) :
    Shape.advanceAll text (first ++ second) marks =
      Shape.advanceAll text second (Shape.advanceAll text first marks) := by
  induction first generalizing marks with
  | nil => rfl
  | cons shape rest ih => exact ih _

/-- A part moves marks over the pieces of its pattern. -/
theorem moves_part (part : Part) {text : List Char} {marks : Marks}
    (hlength : marks.length = text.length + 1) :
    Marks.Moves text (fun piece => part.pattern.Reads none piece []) marks
      (Shape.advanceAll text part.shapes marks) := by
  cases part with
  | text chars =>
    have hsteps : ∀ (chars : List Char) (marks : Marks),
        Shape.advanceAll text (chars.map fun c => .text [c]) marks =
          chars.foldl (fun marks c => marks.step (· == c) text) marks := by
      intro chars
      induction chars with
      | nil => exact fun _ => rfl
      | cons c chars ih => exact fun marks => ih _
    rw [Part.shapes, hsteps]
    exact Marks.moves_text hlength chars.toList
  | blanks =>
    have hspread : Shape.advanceAll text Part.blanks.shapes marks =
        marks.spread (fun c => isBlank c) false text := by
      simp only [← contains_whiteSpace]
      rfl
    rw [hspread]
    exact Marks.moves_spread hlength isBlank

/-- Parts move marks over what they spell. -/
theorem moves_parts (parts : List Part) {text : List Char} {marks : Marks}
    (hlength : marks.length = text.length + 1) :
    Marks.Moves text (Pattern.Spells (parts.map Part.pattern)) marks
      (Shape.advanceAll text (parts.flatMap Part.shapes) marks) := by
  induction parts generalizing marks with
  | nil => exact .refl hlength
  | cons part parts ih =>
    have hfirst := moves_part part hlength
    rw [List.flatMap_cons, advanceAll_append]
    exact hfirst.trans (ih hfirst.length)

theorem plain_of_mem {parts : List Part} {p : Pattern} (h : p ∈ parts.map Part.pattern) :
    p.Plain := by
  obtain ⟨part, _, rfl⟩ := List.mem_map.mp h
  cases part with
  | text chars => exact Pattern.plain_lit chars
  | blanks => exact Pattern.plain_blanks

/-- Parts are found where they are spelled. -/
theorem isMatch_patternOf_iff {parts : List Part} {text : List Char} :
    (patternOf parts).isMatch text = true ↔
      ∃ piece, Pattern.Spells (parts.map Part.pattern) piece ∧ piece <:+: text :=
  Pattern.isMatch_sequence_iff fun _ => plain_of_mem

/-- A pattern of parts finds what the sequence of its parts finds. -/
theorem isMatch_meaning (parts : List Part) (text : List Char) :
    (meaning parts).isMatch text = (patternOf parts).isMatch text := by
  have hlength : (Marks.everywhere text).length = text.length + 1 := by simp [Marks.everywhere]
  rw [Bool.eq_iff_iff, isMatch_patternOf_iff, Shape.isMatch, meaning,
    advance_ofParts fun shape => parts_of_mem_shapes]
  exact Marks.any_iff_of_moves (moves_parts parts hlength)

/-! ## Sizes -/

theorem makeAll_append (backward : Bool) (first second : List Shape) (m : Machine) :
    Shape.makeAll backward (first ++ second) m =
      if backward then Shape.makeAll backward first (Shape.makeAll backward second m)
      else Shape.makeAll backward second (Shape.makeAll backward first m) := by
  induction first generalizing m with
  | nil => cases backward <;> rfl
  | cons shape rest ih =>
    rw [List.cons_append, Shape.makeAll, Shape.makeAll, ih, ih]
    cases backward <;> rfl

/-- Texts take the same states joined as they take alone. -/
theorem makeAll_texts (backward : Bool) (first second : List Char) (rest : List Shape)
    (m : Machine) :
    Shape.makeAll backward (.text first :: .text second :: rest) m =
      Shape.makeAll backward (.text (first ++ second) :: rest) m := by
  cases backward with
  | false =>
    simp only [Shape.makeAll, Shape.make, Bool.false_eq_true, if_false, Machine.add_add,
      Text.byteLength_append]
  | true =>
    simp only [Shape.makeAll, Shape.make, if_true, Machine.add_add, Text.byteLength_append]
    rw [Nat.add_comm]

/-- Joining neighbouring characters does not change which states are made. -/
theorem makeAll_joinText (backward : Bool) (shapes : List Shape) (m : Machine) :
    Shape.makeAll backward (Shape.joinText shapes) m = Shape.makeAll backward shapes m := by
  induction shapes generalizing m with
  | nil => rfl
  | cons shape rest ih =>
    have hrest : ∀ later, Shape.makeAll backward (shape :: later) m =
        if backward then shape.make backward (Shape.makeAll backward later m)
        else Shape.makeAll backward later (shape.make backward m) := fun later => by
      rw [Shape.makeAll]
    unfold Shape.joinText
    split
    · next first second later hlater =>
      rw [← makeAll_texts, ← hlater, hrest, hrest, ih, ih]
    · rw [hrest, hrest, ih, ih]

namespace Shape

/-- The shape has the states of the shapes one after the other. -/
def MadeAs (shape : Shape) (shapes : List Shape) : Prop :=
  ∀ backward m, shape.make backward m = makeAll backward shapes m

theorem MadeAs.pair {first second : Shape} {shapes shapes' : List Shape}
    (hfirst : first.MadeAs shapes) (hsecond : second.MadeAs shapes') :
    MadeAs (.sequence [first, second]) (shapes ++ shapes') := by
  intro backward m
  rw [makeAll_append]
  cases backward <;> simp [make, makeAll, hfirst _ _, hsecond _ _]

/-- A shape that can stand anywhere in a text. -/
def Floats (shape : Shape) : Prop :=
  shape.startsText = false ∧ shape.endsText = false

theorem floats_sequence {shapes : List Shape} (h : ∀ shape ∈ shapes, shape.Floats) :
    Floats (.sequence shapes) := by
  rw [Floats, startsText, endsText]
  induction shapes with
  | nil => exact ⟨rfl, rfl⟩
  | cons shape rest ih =>
    obtain ⟨⟨hstarts, hends⟩, hrest⟩ := List.forall_mem_cons.mp h
    obtain ⟨hfirst, hlast⟩ := ih hrest
    rw [firstStartsText, lastEndsText, hstarts, hends, hfirst, hlast, Bool.and_false,
      Bool.and_false]
    exact ⟨rfl, rfl⟩

/-- Shapes that can stand anywhere and have the same states are both small enough, or both not. -/
theorem MadeAs.fits_congr {shape shape' : Shape} {shapes : List Shape} (h : shape.MadeAs shapes)
    (h' : shape'.MadeAs shapes) (hfloats : shape.Floats) (hfloats' : shape'.Floats) :
    shape.fits = shape'.fits := by
  have hforward : shape.forward = shape'.forward := by
    rw [forward, forward, hfloats.1, hfloats'.1, h, h']
  have hbackward : shape.backward = shape'.backward := by
    rw [backward, backward, hfloats.2, hfloats'.2, h, h']
  rw [fits, fits, hforward, hbackward]

end Shape

/-- A part has the states of its pattern. -/
theorem madeAs_part (part : Part) : part.pattern.shape.MadeAs part.shapes := by
  cases part with
  | text chars =>
    have hall : ∀ (chars : List Char) backward m,
        Shape.makeAll backward (chars.map fun c => .text [c]) m =
          m.add (Text.byteLength chars) 0 := by
      intro chars backward
      induction chars with
      | nil => exact fun m => rfl
      | cons c chars ih =>
        intro m
        have hchar : ∀ m, (Shape.text [c]).make backward m = m.add c.utf8Size 0 := by
          intro m
          rw [Shape.make, Text.byteLength_cons c [], Text.byteLength_nil, Nat.add_zero]
        rw [List.map_cons, Shape.makeAll, ih, ih, hchar, hchar, Machine.add_add, Machine.add_add,
          Text.byteLength_cons c chars, Nat.add_comm c.utf8Size]
        exact ite_self _
    exact fun backward m => (hall chars.toList backward m).symm
  | blanks =>
    intro backward m
    have hshape : Part.blanks.pattern.shape = .repeated true ⟨0, none⟩ (.one whiteSpace) :=
      congrArg (Shape.repeated true ⟨0, none⟩) ofSet_whiteSpace
    rw [hshape]
    cases backward <;> rfl

theorem floats_part (part : Part) : part.pattern.shape.Floats := by
  cases part <;> exact ⟨rfl, rfl⟩

theorem floats_of_mem_shapes {parts : List Part} {shape : Shape}
    (h : shape ∈ parts.flatMap Part.shapes) : shape.Floats := by
  obtain ⟨part, _, hshape⟩ := List.mem_flatMap.mp h
  cases part with
  | text chars =>
    obtain ⟨c, _, rfl⟩ := List.mem_map.mp hshape
    exact ⟨rfl, rfl⟩
  | blanks =>
    obtain rfl := List.mem_singleton.mp hshape
    exact ⟨rfl, rfl⟩

/-- Parts one after the other have the states of their patterns, and can stand anywhere. -/
theorem madeAs_patternOf (part : Part) (parts : List Part) :
    (patternOf (part :: parts)).shape.MadeAs ((part :: parts).flatMap Part.shapes) ∧
      (patternOf (part :: parts)).shape.Floats := by
  have hfold : ∀ (parts : List Part) (p : Pattern) (shapes : List Shape), p.shape.MadeAs shapes →
      p.shape.Floats → (∀ set, p ≠ .one set) →
      ((parts.map Part.pattern).foldl .seq p).shape.MadeAs
          (shapes ++ parts.flatMap Part.shapes) ∧
        ((parts.map Part.pattern).foldl .seq p).shape.Floats := by
    intro parts
    induction parts with
    | nil =>
      intro p shapes hp hfloats _
      rw [List.flatMap_nil, List.append_nil]
      exact ⟨hp, hfloats⟩
    | cons part parts ih =>
      intro p shapes hp hfloats hmany
      have hshape : (Pattern.seq p part.pattern).shape =
          .sequence [p.shape, part.pattern.shape] := by
        rcases Pattern.seq_cases p part.pattern with ⟨hshape, _⟩ | ⟨set, _, hone, _⟩
        · exact hshape
        · exact absurd hone (hmany set)
      have hfloating : ∀ shape ∈ [p.shape, part.pattern.shape], shape.Floats := by
        simp [hfloats, floats_part part]
      rw [List.flatMap_cons, ← List.append_assoc]
      refine ih (.seq p part.pattern) (shapes ++ part.shapes) ?_ ?_ fun set h => by cases h
      · rw [hshape]
        exact hp.pair (madeAs_part part)
      · rw [hshape]
        exact Shape.floats_sequence hfloating
  refine hfold parts part.pattern part.shapes (madeAs_part part) (floats_part part) fun set h => ?_
  cases part <;> cases h

theorem joinText_ne_nil {shapes : List Shape} (hne : shapes ≠ []) :
    Shape.joinText shapes ≠ [] := by
  cases shapes with
  | nil => exact absurd rfl hne
  | cons shape rest =>
    unfold Shape.joinText
    split <;> exact List.cons_ne_nil _ _

theorem floats_joinText {shapes : List Shape} (h : ∀ shape ∈ shapes, shape.Floats) :
    ∀ shape ∈ Shape.joinText shapes, shape.Floats := by
  induction shapes with
  | nil => exact h
  | cons shape rest ih =>
    obtain ⟨hshape, hrest⟩ := List.forall_mem_cons.mp h
    have hjoined := ih hrest
    unfold Shape.joinText
    split
    · next first second later hlater =>
      rw [hlater] at hjoined
      exact List.forall_mem_cons.mpr ⟨⟨rfl, rfl⟩, (List.forall_mem_cons.mp hjoined).2⟩
    · exact List.forall_mem_cons.mpr ⟨hshape, hjoined⟩

/-- So has the meaning of parts, if there is anything in them. -/
theorem madeAs_meaning {parts : List Part} (hne : parts.flatMap Part.shapes ≠ []) :
    (meaning parts).MadeAs (parts.flatMap Part.shapes) ∧ (meaning parts).Floats := by
  have hjoined := joinText_ne_nil hne
  have hmake := fun backward => makeAll_joinText backward (parts.flatMap Part.shapes)
  have hfloats : ∀ shape ∈ Shape.joinText (parts.flatMap Part.shapes), shape.Floats :=
    floats_joinText fun shape => floats_of_mem_shapes
  rw [meaning, Shape.ofParts, flatMap_parts fun shape => parts_of_mem_shapes]
  generalize Shape.joinText (parts.flatMap Part.shapes) = joined at hjoined hmake hfloats ⊢
  rcases joined with _ | ⟨shape, _ | ⟨second, rest⟩⟩
  · exact absurd rfl hjoined
  · refine ⟨fun backward m => ?_, hfloats shape (List.mem_singleton_self _)⟩
    rw [← hmake]
    cases backward <;> rfl
  · exact ⟨fun backward m => hmake backward m, Shape.floats_sequence hfloats⟩

/-- A pattern of parts is too large exactly if the sequence of its parts is. -/
theorem fits_meaning (parts : List Part) : (meaning parts).fits = (patternOf parts).fits := by
  rw [Pattern.fits_eq]
  cases parts with
  | nil => rfl
  | cons part parts =>
    obtain ⟨hmade, hfloats⟩ := madeAs_patternOf part parts
    by_cases hne : (part :: parts).flatMap Part.shapes = []
    · -- Without any character the text is the empty pattern, which has a state of its own.
      have hcost : (patternOf (part :: parts)).shape.CostsAtMost 0 := by
        intro backward m
        rw [hmade, hne]
        exact Nat.le_refl _
      rw [meaning, hne, Shape.fits_of_costsAtMost hcost (by decide)]
      exact Shape.fits_of_costsAtMost Shape.costsAtMost_empty (by decide)
    · obtain ⟨hmeaning, hfloats'⟩ := madeAs_meaning hne
      exact hmeaning.fits_congr hmade hfloats' hfloats

/-! ## Sets of patterns -/


/-- Whatever the text writes is small enough to be searched for. -/
def SmallEnough (text : String) : Prop :=
  ∀ tree shape, Tree.read? text.toList = some tree → tree.shape? = some shape → shape.fits = true

/-- A written pattern of parts is small enough exactly if the sequence of its parts is. -/
theorem smallEnough_written_iff {parts : List Part} :
    SmallEnough (written parts) ↔ (patternOf parts).fits = true := by
  have hshape : (Tree.ofParts (parts.flatMap Part.trees)).shape? = some (meaning parts) :=
    shape?_ofParts (shapes?_parts parts) fun shape => parts_of_mem_shapes
  rw [← fits_meaning]
  constructor
  · exact fun h => h _ (meaning parts) (read?_written parts) hshape
  · intro hfits tree shape htree hmeans
    obtain rfl := Option.some.inj ((read?_written parts).symm.trans htree)
    obtain rfl := Option.some.inj (hshape.symm.trans hmeans)
    exact hfits

/-- Patterns of parts find what the sequences of their parts find: the same of them are dropped. -/
theorem anyMatch_parseAll_written (rules : List (List Part)) (text : List Char) :
    anyMatch (parseAll (rules.map written)) text = Pattern.anyMatch (rules.map patternOf) text := by
  induction rules with
  | nil => rfl
  | cons parts rules ih =>
    rw [anyMatch, parseAll, Pattern.anyMatch] at ih ⊢
    rw [List.map_cons, List.map_cons, List.filterMap_cons, parse?_written, fits_meaning,
      List.any_cons, Pattern.finds, ← ih]
    by_cases hfits : (patternOf parts).fits = true
    · rw [if_pos hfits, hfits, Bool.and_true, ← isMatch_meaning]
      exact List.any_cons
    · rw [if_neg hfits, Bool.eq_false_iff.mpr hfits, Bool.and_false, Bool.false_or]

end TokenAudit.Written
