import TokenAudit.Proofs.Declarations.Scan
import TokenAudit.Proofs.Text.Nesting

/-!
# Declarations as they are written

A text that is made of declarations with fillers around them is read back: `declarations` lists one
function per declaration, in order, each with its own parts and its own place.

## Main definitions

* `WrittenFunction`: a declaration in its parts.
* `layOut`: the text of a list of declarations with fillers around them.

## Main results

* `WrittenFunction.read?_head`: the head of a declaration is read back.
* `WrittenFunction.declarationsFrom_chars`: the search lists a declaration and goes on after it.
* `declarations_layOut`: the search lists exactly the declarations of a text.
-/

namespace TokenAudit

open Text Unicode

/-- A function declaration in its parts. -/
structure WrittenFunction where
  /-- The blanks after the keyword. -/
  gap : List Char
  /-- The first character of the name. -/
  initial : Char
  /-- The other characters of the name. -/
  more : List Char
  /-- The blanks after the name. -/
  space : List Char
  /-- The text between the parentheses. -/
  params : List Char
  /-- The text between the parameter list and the end of the head. -/
  modifiers : List Char
  /-- The text between the braces of the body, if there is a body. -/
  inner : Option (List Char)
  gap_ne_nil : gap ≠ []
  gap_blank : ∀ c ∈ gap, isBlank c = true
  initial_start : isNameStart initial = true
  more_part : ∀ c ∈ more, isNamePart c = true
  space_blank : ∀ c ∈ space, isBlank c = true
  params_free : ∀ c ∈ params, c ∉ [')', '\x7b', '\x7d', ';']
  modifiers_free : ∀ c ∈ modifiers, c ∉ ['\x7b', '\x7d', ';']
  inner_nested : ∀ text ∈ inner, Nested braces text
  inner_free : ∀ text ∈ inner, ¬Header.keyword <:+: text

namespace WrittenFunction

/-- The declared name. -/
def name (w : WrittenFunction) : List Char :=
  w.initial :: w.more

/-- The character that ends the head. -/
def terminator (w : WrittenFunction) : Char :=
  if w.inner.isSome then '\x7b' else ';'

/-- The text of the head. -/
def head (w : WrittenFunction) : List Char :=
  Header.keyword ++ w.gap ++ w.name ++ w.space ++ '(' :: w.params ++ ')' :: w.modifiers ++
    [w.terminator]

/-- The text after the head: the rest of the body, with the brace that closes it. -/
def rest (w : WrittenFunction) : List Char :=
  match w.inner with
  | some inner => inner ++ ['\x7d']
  | none => []

/-- The text of the declaration. -/
def chars (w : WrittenFunction) : List Char :=
  w.head ++ w.rest

/-- The function that is declared at a byte offset. -/
def function (w : WrittenFunction) (start : Nat) : Function where
  name := String.ofList w.name
  params := String.ofList (trimChars w.params)
  modifiers := String.ofList (trimChars w.modifiers)
  start := start
  stop := start + byteLength w.chars
  body := String.ofList w.chars
  isImplementation := w.inner.isSome
  parameters := .empty

end WrittenFunction

/-! ## Heads -/

/-- A part of a name is no blank. -/
theorem isBlank_of_isNamePart {c : Char} (h : isNamePart c = true) : isBlank c = false := by
  simp [isNamePart, isNameStart, isAsciiLetter, isAsciiDigit, isBlank, Char.le_def,
    UInt32.le_iff_toNat_le, Char.ext_iff, ← UInt32.toNat_inj] at h ⊢
  omega

/-- A start of a name is a part of a name. -/
theorem isNamePart_of_isNameStart {c : Char} (h : isNameStart c = true) : isNamePart c = true := by
  rw [isNamePart, h, Bool.true_or]

/-- Text is split where the first character outside `p` stands. -/
theorem splitWhile_append {p : Char → Bool} {text : List Char} {c : Char}
    (htext : ∀ d ∈ text, p d = true) (hc : p c = false) (after : List Char) :
    splitWhile p (text ++ c :: after) = (text, c :: after) := by
  rw [splitWhile, List.takeWhile_append_of_pos htext, List.dropWhile_append_of_pos htext,
    List.takeWhile_cons_of_neg (by simp [hc]), List.dropWhile_cons_of_neg (by simp [hc]),
    List.append_nil]

namespace WrittenFunction

/-- The header of a declaration, with the text after the head. -/
def header (w : WrittenFunction) (after : List Char) : Header where
  name := w.name
  params := w.params
  modifiers := w.modifiers
  opensBody := w.inner.isSome
  chars := w.head
  after := after

/-! The runs that a head is cut into, each up to the character that ends it. -/

/-- The blanks after the keyword end where the name starts. -/
theorem splitWhile_gap (w : WrittenFunction) (after : List Char) :
    splitWhile isBlank (w.gap ++ (w.name ++ after)) = (w.gap, w.name ++ after) :=
  splitWhile_append w.gap_blank
    (isBlank_of_isNamePart (isNamePart_of_isNameStart w.initial_start)) (w.more ++ after)

/-- The name ends at the blanks after it or at the parenthesis. -/
theorem splitWhile_name (w : WrittenFunction) (after : List Char) :
    splitWhile isNamePart (w.name ++ (w.space ++ '(' :: after)) =
      (w.name, w.space ++ '(' :: after) := by
  have hname : ∀ c ∈ w.name, isNamePart c = true := by
    intro c hc
    rcases List.mem_cons.mp hc with rfl | hc
    · exact isNamePart_of_isNameStart w.initial_start
    · exact w.more_part c hc
  cases hspace : w.space with
  | nil => exact splitWhile_append hname (by decide) after
  | cons c blanks =>
    have hblank : isBlank c = true := w.space_blank c (by simp [hspace])
    refine splitWhile_append hname ?_ (blanks ++ '(' :: after)
    by_contra hpart
    rw [isBlank_of_isNamePart (by simpa using hpart)] at hblank
    cases hblank

/-- The blanks after the name end at the parenthesis. -/
theorem splitWhile_space (w : WrittenFunction) (after : List Char) :
    splitWhile isBlank (w.space ++ '(' :: after) = (w.space, '(' :: after) :=
  splitWhile_append w.space_blank (by decide) after

/-- The parameters end at the closing parenthesis. -/
theorem splitWhile_params (w : WrittenFunction) (after : List Char) :
    splitWhile (fun c => !(c == ')' || c == '\x7b' || c == '\x7d' || c == ';'))
      (w.params ++ ')' :: after) = (w.params, ')' :: after) := by
  refine splitWhile_append (fun c hc => ?_) (by decide) after
  simpa [and_assoc] using w.params_free c hc

/-- The modifiers end where the head ends. -/
theorem splitWhile_modifiers (w : WrittenFunction) (after : List Char) :
    splitWhile (fun c => !(c == '\x7b' || c == ';')) (w.modifiers ++ w.terminator :: after) =
      (w.modifiers, w.terminator :: after) := by
  refine splitWhile_append (fun c hc => ?_) ?_ after
  · have hfree := w.modifiers_free c hc
    simp only [List.mem_cons, List.not_mem_nil, not_or] at hfree
    simp [hfree.1, hfree.2.2.1]
  · rw [terminator]
    cases w.inner <;> rfl

/-- The head ends in a brace exactly if there is a body. -/
theorem terminator_beq (w : WrittenFunction) : (w.terminator == '\x7b') = w.inner.isSome := by
  rw [terminator]
  cases w.inner <;> rfl

/-- The head of a declaration is read back, whatever comes after it. -/
theorem read?_head (w : WrittenFunction) (after : List Char) :
    Header.read? (w.head ++ after) = some (w.header after) := by
  have hhead : w.head ++ after = Header.keyword ++ (w.gap ++ (w.name ++ (w.space ++ '(' ::
      (w.params ++ ')' :: (w.modifiers ++ w.terminator :: after))))) := by
    simp [head]
  have hkeyword : Header.keyword.isPrefixOf (w.head ++ after) = true := by
    rw [List.isPrefixOf_iff_prefix, hhead]
    exact List.prefix_append _ _
  have hgap : w.gap.isEmpty = false := by
    simpa using w.gap_ne_nil
  have hinitial : ∀ text, (w.name ++ text).head?.any isNameStart = true := fun _ =>
    w.initial_start
  rw [Header.read?, hkeyword, hhead, List.drop_left, splitWhile_gap]
  simp only [hgap, hinitial, splitWhile_name, splitWhile_space, splitWhile_params,
    splitWhile_modifiers, terminator_beq, guard, Bool.not_false, if_true, Option.pure_def,
    Option.bind_eq_bind, Option.bind_some]
  rfl

/-! ## Whole declarations -/

/-- The function of a declaration is read off its header and the text after the head. -/
theorem function?_header (w : WrittenFunction) (start : Nat) (after : List Char) :
    (w.header (w.rest ++ after)).function? start = some (w.function start) := by
  cases hinner : w.inner with
  | none => simp [Header.function?, header, function, chars, rest, hinner]
  | some inner =>
    have henclosed : enclosed braces none (inner ++ '\x7d' :: after) = some (inner, after) :=
      (w.inner_nested inner hinner).enclosed_append (by decide) after
    simp [Header.function?, header, function, chars, rest, hinner, henclosed]

/-- The text after the head of a declaration, as a filler. -/
def restFiller (w : WrittenFunction) : Filler where
  chars := w.rest
  free := by
    rw [rest]
    cases hinner : w.inner with
    | none => decide
    | some inner => exact not_keyword_infix_concat (w.inner_free inner hinner) (by decide)
  ends := by
    intro c hc
    rw [rest] at hc
    cases hinner : w.inner with
    | none => simp [hinner] at hc
    | some inner =>
      have hlast : c = '\x7d' := by simpa [hinner, eq_comm] using hc
      rw [hlast]
      decide

/-- No word runs on from the end of a declaration. -/
theorem lastBefore_chars_any_isWord (w : WrittenFunction) (before : Option Char) :
    (lastBefore before w.chars).any isWord = false := by
  have hhead : lastBefore before w.head = some w.terminator := by
    rw [head, lastBefore_append]
    rfl
  have hterminator : isWord w.terminator = false := by
    rw [terminator]
    cases w.inner <;> rfl
  rw [chars, lastBefore_append, hhead]
  exact w.restFiller.lastBefore_any_isWord hterminator

/-- The search lists a declaration and goes on after it. -/
theorem declarationsFrom_chars (w : WrittenFunction) {before : Option Char}
    (hbefore : before.any isWord = false) (offset : Nat) (after : List Char) :
    declarationsFrom 0 before offset (w.chars ++ after) =
      w.function offset ::
        declarationsFrom 0 (lastBefore before w.chars) (offset + byteLength w.chars) after := by
  have hne : (w.header (w.rest ++ after)).chars ≠ [] := by simp [header, head]
  calc declarationsFrom 0 before offset (w.chars ++ after)
      = declarationsFrom 0 before offset (w.head ++ (w.rest ++ after)) := by
        rw [chars, List.append_assoc]
    _ = w.function offset :: declarationsFrom 0 (lastBefore before w.head)
          (offset + byteLength w.head) (w.rest ++ after) := by
        have hheader := declarationsFrom_header hne (w.read?_head _) hbefore offset
        rwa [function?_header] at hheader
    _ = w.function offset :: declarationsFrom 0 (lastBefore before w.chars)
          (offset + byteLength w.chars) after := by
        have hrest := declarationsFrom_filler w.restFiller (lastBefore before w.head)
          (offset + byteLength w.head) after
        rw [chars, lastBefore_append, byteLength_append, ← Nat.add_assoc]
        exact congrArg _ hrest

end WrittenFunction

/-! ## Texts of declarations -/

/-- The text of a list of declarations, each with the filler after it, and `lead` before them. -/
def layOut (lead : Filler) : List (WrittenFunction × Filler) → List Char
  | [] => lead.chars
  | (w, filler) :: pieces => lead.chars ++ (w.chars ++ layOut filler pieces)

/-- The search lists the declarations that are laid out, wherever the text starts. -/
theorem declarationsFrom_layOut (lead : Filler) (pieces : List (WrittenFunction × Filler))
    {before : Option Char} (hbefore : before.any isWord = false) (offset : Nat) :
    declarationsFrom 0 before offset (layOut lead pieces) =
      pieces.mapIdx fun i piece =>
        piece.1.function (offset + byteLength (layOut lead (pieces.take i))) := by
  induction pieces generalizing lead before offset with
  | nil =>
    have hlead := declarationsFrom_filler lead before offset []
    rwa [List.append_nil] at hlead
  | cons piece pieces ih =>
    obtain ⟨w, filler⟩ := piece
    -- The filler after the declaration leads the rest of the text.
    rw [layOut, declarationsFrom_filler,
      w.declarationsFrom_chars (lead.lastBefore_any_isWord hbefore),
      ih filler (w.lastBefore_chars_any_isWord _), List.mapIdx_cons]
    simp [layOut, Nat.add_assoc]

/-- The functions of a text of declarations are its declarations, in order, each with its own parts
and at its own place. -/
theorem declarations_layOut (lead : Filler) (pieces : List (WrittenFunction × Filler)) :
    declarations (String.ofList (layOut lead pieces)) =
      pieces.mapIdx fun i piece =>
        piece.1.function (byteLength (layOut lead (pieces.take i))) := by
  rw [declarations, String.toList_ofList, declarationsFrom_layOut lead pieces rfl]
  simp

/-- A declaration with a block in its body. -/
def blockFunction : WrittenFunction where
  gap := [' ', '\n']
  initial := '_'
  more := ['f', '1']
  space := [' ']
  params := " uint x ".toList
  modifiers := " public\n".toList
  inner := some "é\x7b\x7d".toList
  gap_ne_nil := by decide
  gap_blank := List.all_eq_true.mp (by decide)
  initial_start := by decide
  more_part := List.all_eq_true.mp (by decide)
  space_blank := List.all_eq_true.mp (by decide)
  params_free := by simp
  modifiers_free := by simp
  inner_nested := by
    rintro _ ⟨⟩
    exact .plain (by decide) (by decide) (.group .nil .nil)
  inner_free := by decide

/-- A declaration without a body. -/
def stubFunction : WrittenFunction where
  gap := [' ']
  initial := 'g'
  more := []
  space := []
  params := []
  modifiers := []
  inner := none
  gap_ne_nil := by decide
  gap_blank := List.all_eq_true.mp (by decide)
  initial_start := by decide
  more_part := List.all_eq_true.mp (by decide)
  space_blank := List.all_eq_true.mp (by decide)
  params_free := by simp
  modifiers_free := by simp
  inner_nested := by simp
  inner_free := by decide

/-- A body and a stub are listed at their byte offsets, after characters of two bytes. -/
theorem declarations_layOut_block_stub :
    declarations "é function \n_f1 ( uint x ) public\n\x7bé\x7b\x7d\x7d ü\nfunction g();" =
      [⟨"_f1", "uint x", "public", 3, 41,
        "function \n_f1 ( uint x ) public\n\x7bé\x7b\x7d\x7d", true, .empty⟩,
       ⟨"g", "", "", 45, 58, "function g();", false, .empty⟩] := by
  have htext : String.ofList (layOut ⟨"é ".toList, by decide, by rintro _ ⟨⟩; rfl⟩
      [(blockFunction, ⟨" ü\n".toList, by decide, by rintro _ ⟨⟩; rfl⟩),
       (stubFunction, ⟨[], by decide, by simp⟩)]) =
      "é function \n_f1 ( uint x ) public\n\x7bé\x7b\x7d\x7d ü\nfunction g();" := by
    decide +kernel
  rw [← htext, declarations_layOut]
  decide +kernel

end TokenAudit
