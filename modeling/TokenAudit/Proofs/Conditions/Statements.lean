import Mathlib.Data.List.TakeWhile
import TokenAudit.Code.Condition
import TokenAudit.Proofs.Text.Nesting

/-!
# Conditions of code that follows other code

Code is harvested statement by statement: where a text ends in a semicolon and closes every bracket
that it opens, a guard in it is read without a look at what follows, and no guard reaches across the
semicolon. So the conditions of such a text and of the text after it are found one after the other.

## Main definitions

* `Condition.Complete`: a text that ends with a statement and closes what it opens.
* `IfHead.followedBy`: an `if` with more text after it.

## Main results

* `Condition.Complete.requireAt?_append`, `Condition.Complete.ifAt?_append`,
  `Condition.Complete.guarded?_append`: one guard, and what it guards, before other code.
* `Condition.Complete.requiresFrom_append`, `Condition.Complete.ifRevertsFrom_append`: all guards
  from some place of the text on.
* `Condition.conditions_append`: the conditions of nested statements before any other text.
-/

namespace TokenAudit.Condition

open Text Unicode

/-- The text ends in a semicolon and closes every bracket that it opens. Every end of a text that is
made of whole statements is complete in this sense. -/
structure Complete (text : List Char) : Prop where
  /-- The last character is a semicolon. -/
  last : text.getLast? = some ';'
  /-- Every parenthesis is closed. -/
  parens : Closes parens text
  /-- Every brace is closed. -/
  braces : Closes braces text

/-- A text is harvested after any character that is no word character as it is from its start. -/
theorem requiresFrom_of_not_word {before : Option Char} (hbefore : before.any isWord = false)
    (text : List Char) : requiresFrom before text = requires text := by
  cases text with
  | nil => rfl
  | cons c rest =>
    rw [requires, requiresFrom, requiresFrom, hbefore]
    rfl

namespace Complete

variable {text back : List Char}

theorem of_suffix (h : Complete text) (hback : back <:+ text) (hne : back ≠ []) :
    Complete back := by
  refine ⟨?_, h.parens.of_suffix hback, h.braces.of_suffix hback⟩
  obtain ⟨front, rfl⟩ := hback
  rw [← h.last, List.getLast?_append, List.getLast?_eq_some_getLast hne,
    Option.some_or]

theorem ne_nil (h : Complete text) : text ≠ [] := by
  rintro rfl
  cases h.last

theorem semicolon_mem (h : Complete text) : ';' ∈ text :=
  List.mem_of_getLast? h.last

/-- What follows characters other than semicolons is complete again. -/
theorem of_append (front : List Char) (h : Complete (front ++ back)) (hfront : ';' ∉ front) :
    Complete back := by
  refine h.of_suffix (List.suffix_append front back) ?_
  rintro rfl
  rw [List.append_nil] at h
  exact hfront h.semicolon_mem

/-- A run of characters other than semicolons ends within the text. -/
theorem dropWhile_append (h : Complete text) {p : Char → Bool} (hp : p ';' = false)
    (post : List Char) : (text ++ post).dropWhile p = text.dropWhile p ++ post := by
  have hne : text.dropWhile p ≠ [] := by
    intro hnil
    have hall := List.dropWhile_eq_nil_iff.mp hnil ';' h.semicolon_mem
    rw [hp] at hall
    cases hall
  rw [List.dropWhile_append, if_neg (by simpa using hne)]

theorem dropWhile (h : Complete text) {p : Char → Bool} (hp : p ';' = false) :
    Complete (text.dropWhile p) := by
  rw [← List.takeWhile_append_dropWhile (p := p) (l := text)] at h
  refine of_append _ h fun hmem => ?_
  have hsatisfied := List.all_eq_true.mp List.all_takeWhile _ hmem
  rw [hp] at hsatisfied
  cases hsatisfied

theorem takeWhile_append (h : Complete text) {p : Char → Bool} (hp : p ';' = false)
    (post : List Char) : (text ++ post).takeWhile p = text.takeWhile p := by
  have hshort : (text.takeWhile p).length ≠ text.length := by
    intro hlength
    have hself := (List.takeWhile_sublist p).eq_of_length hlength
    have hsemicolon := List.takeWhile_eq_self_iff.mp hself ';' h.semicolon_mem
    rw [hp] at hsemicolon
    cases hsemicolon
  rw [List.takeWhile_append, if_neg hshort]

/-- A word without semicolons that starts the text with what follows starts the text itself. -/
theorem isPrefixOf_append (h : Complete text) {word : List Char} (hword : ';' ∉ word)
    (post : List Char) : word.isPrefixOf (text ++ post) = word.isPrefixOf text := by
  rw [Bool.eq_iff_iff, List.isPrefixOf_iff_prefix, List.isPrefixOf_iff_prefix]
  constructor
  · intro hlong
    -- Otherwise the text, semicolon included, would be a front of the word.
    rcases List.prefix_or_prefix_of_prefix hlong (List.prefix_append text post) with hword' | htext
    · exact hword'
    · exact absurd (htext.subset h.semicolon_mem) hword
  · exact fun hshort => hshort.trans (List.prefix_append text post)

/-! ## Guards that state what must hold -/

/-- The `require` that a complete text starts with is read within it. -/
theorem requireAt?_append (h : Complete text) (post : List Char) :
    requireAt? (text ++ post) = requireAt? text := by
  unfold requireAt?
  dsimp only
  rw [h.isPrefixOf_append (by decide)]
  by_cases hword : "require".toList.isPrefixOf text = true
  · rw [if_pos hword, if_pos hword]
    obtain ⟨tail, rfl⟩ := List.isPrefixOf_iff_prefix.mp hword
    have htail : Complete tail := of_append _ h (by decide)
    rw [List.append_assoc, List.drop_left, List.drop_left, htail.dropWhile_append rfl]
    -- Blanks are no semicolons, so what stands after them is complete, and not empty.
    have hopened : Complete (tail.dropWhile isBlank) := htail.dropWhile rfl
    generalize tail.dropWhile isBlank = opened at hopened
    rcases opened with _ | ⟨c, argument⟩
    · exact absurd rfl hopened.ne_nil
    by_cases hc : c = '('
    · subst hc
      -- The parenthesis is closed within the text.
      have hread := hopened.parens.enclosed_append (by decide) (some requireDepth) post
      change Option.map _ (enclosed Text.parens _ (argument ++ post)) = Option.map _ _
      rw [hread]
      cases enclosed Text.parens (some requireDepth) argument <;> rfl
    · simp [hc]
  · rw [if_neg hword, if_neg hword]

/-- The guards from some place of a complete text on are found before those of what follows. -/
theorem requiresFrom_append (h : Complete text) (before : Option Char) (post : List Char) :
    requiresFrom before (text ++ post) = requiresFrom before text ++ requires post := by
  induction text generalizing before with
  | nil => exact absurd rfl h.ne_nil
  | cons c rest ih =>
    have hlater : requiresFrom (some c) (rest ++ post) =
        requiresFrom (some c) rest ++ requires post := by
      by_cases hrest : rest = []
      · -- The semicolon at the end is no word character, so a word may start after it.
        subst hrest
        obtain rfl : c = ';' := by simpa using h.last
        exact requiresFrom_of_not_word rfl post
      · exact ih (h.of_suffix (List.suffix_cons c rest) hrest) (some c)
    have hhere := h.requireAt?_append post
    rw [List.cons_append] at hhere ⊢
    rw [requiresFrom, requiresFrom, hlater, hhere]
    by_cases hword : before.any isWord = true
    · rw [if_pos hword, if_pos hword]
    · rw [if_neg hword, if_neg hword, List.append_assoc]

/-! ## Guards that state what must not hold -/

/-- What a guard guards in a complete text is found within it. -/
theorem guarded?_append (h : Complete text) (post : List Char) :
    guarded? (text ++ post) = guarded? text := by
  unfold guarded?
  rw [h.dropWhile_append rfl]
  have hstart : Complete (text.dropWhile isAsciiBlank) := h.dropWhile rfl
  generalize text.dropWhile isAsciiBlank = start at hstart
  rcases start with _ | ⟨c, rest⟩
  · exact absurd rfl hstart.ne_nil
  dsimp only [List.cons_append]
  by_cases hbrace : (c == '\x7b') = true
  · -- A block: its closing brace is there.
    rw [if_pos hbrace, if_pos hbrace]
    obtain rfl := beq_iff_eq.mp hbrace
    rw [hstart.braces.enclosed_append (by decide)]
    cases enclosed Text.braces none rest <;> rfl
  · -- A statement: its semicolon is there.
    have hsemicolon : (c :: rest).contains ';' = true := by simpa using hstart.semicolon_mem
    have hsemicolon' : (c :: (rest ++ post)).contains ';' = true := by
      rw [← List.cons_append, List.contains_append, hsemicolon, Bool.true_or]
    rw [if_neg hbrace, if_neg hbrace, if_pos hsemicolon, if_pos hsemicolon', ← List.cons_append,
      hstart.takeWhile_append rfl]

end Complete

/-- A text that does not start with `if` starts with no guard. -/
theorem ifAt?_eq_none {c d : Char} (hif : ¬(c = 'i' ∧ d = 'f')) (rest : List Char) :
    ifAt? (c :: d :: rest) = none := by
  unfold ifAt?
  split
  · next heq =>
    obtain ⟨rfl, htail⟩ := List.cons.inj heq
    exact absurd ⟨rfl, (List.cons.inj htail).1⟩ hif
  · rfl

/-- A text is harvested after any character that is no part of a name as it is from its start. -/
theorem ifRevertsFrom_of_not_name {before : Option Char} (hbefore : before.any isNamePart = false)
    (text : List Char) : ifRevertsFrom 0 before text = ifReverts text := by
  cases text with
  | nil => rfl
  | cons c rest =>
    rw [ifReverts, ifRevertsFrom, ifRevertsFrom, hbefore]
    rfl

/-- The `if` with more text after it. -/
def IfHead.followedBy (head : IfHead) (post : List Char) : IfHead :=
  { head with after := head.after ++ post }

/-- An `if` is the text up to its closing parenthesis, and its length counts these characters. -/
theorem exists_of_ifAt?_eq_some {text : List Char} {head : IfHead} (h : ifAt? text = some head) :
    ∃ front, text = front ++ ')' :: head.after ∧ head.length = front.length + 1 := by
  unfold ifAt? at h
  split at h
  · next rest =>
    split at h
    · cases h
    · dsimp only [splitWhile] at h
      split at h
      · next inside hopened =>
        obtain ⟨⟨inner, after⟩, hread, rfl⟩ := Option.map_eq_some_iff.mp h
        obtain ⟨rfl, -⟩ := (enclosed_eq_some_iff (by decide)).mp hread
        refine ⟨'i' :: 'f' :: (rest.takeWhile isAsciiBlank ++ '(' :: inner), ?_, ?_⟩
        · have hparts := List.takeWhile_append_dropWhile (p := isAsciiBlank) (l := rest)
          rw [hopened] at hparts
          simp only [List.cons_append, List.append_assoc]
          exact congrArg (fun tail => 'i' :: 'f' :: tail) hparts.symm
        · simp
          omega
      · cases h
  · cases h

namespace Complete

variable {text : List Char}

/-- The `if` that a complete text starts with is read within it. -/
theorem ifAt?_append (h : Complete text) (post : List Char) :
    ifAt? (text ++ post) = (ifAt? text).map (·.followedBy post) := by
  rcases text with _ | ⟨c, _ | ⟨d, rest⟩⟩
  · exact absurd rfl h.ne_nil
  · obtain rfl : c = ';' := by simpa using h.last
    simp [ifAt?]
  by_cases hif : c = 'i' ∧ d = 'f'
  · obtain ⟨rfl, rfl⟩ := hif
    have hrest : Complete rest := of_append ['i', 'f'] h (by decide)
    -- Whether the word goes on after `if` is seen within the text.
    have hnext : (rest ++ post).head? = rest.head? := by
      rw [List.head?_append, List.head?_eq_some_head hrest.ne_nil, Option.some_or]
    simp only [List.cons_append, ifAt?, splitWhile, hnext, hrest.dropWhile_append (p := isAsciiBlank) rfl,
      hrest.takeWhile_append (p := isAsciiBlank) rfl]
    by_cases hname : rest.head?.any isNamePart = true
    · rw [if_pos hname, if_pos hname, Option.map_none]
    rw [if_neg hname, if_neg hname]
    have hopened : Complete (rest.dropWhile isAsciiBlank) := hrest.dropWhile rfl
    generalize rest.dropWhile isAsciiBlank = opened at hopened
    rcases opened with _ | ⟨e, inside⟩
    · exact absurd rfl hopened.ne_nil
    by_cases he : e = '('
    · subst he
      have hread := hopened.parens.enclosed_append (by decide) none post
      simp only [List.cons_append, hread, Option.map_map]
      rfl
    · simp [he]
  · rw [List.cons_append, List.cons_append, ifAt?_eq_none hif, ifAt?_eq_none hif, Option.map_none]

/-- What follows an `if` in a complete text is complete, so the `if` ends before the text does. -/
theorem after_of_ifAt? (h : Complete text) {head : IfHead} (hhead : ifAt? text = some head) :
    Complete head.after ∧ head.length < text.length := by
  obtain ⟨front, rfl, hlength⟩ := exists_of_ifAt?_eq_some hhead
  have hclosed : Complete (')' :: head.after) :=
    h.of_suffix (List.suffix_append front _) (List.cons_ne_nil _ _)
  have hafter : Complete head.after := of_append [')'] hclosed (by decide)
  have hpositive : 0 < head.after.length := List.length_pos_iff.mpr hafter.ne_nil
  refine ⟨hafter, ?_⟩
  rw [hlength, List.length_append, List.length_cons]
  omega

/-- The guards from some place of a complete text on are found before those of what follows, unless
the whole text belongs to an `if` that has been read. -/
theorem ifRevertsFrom_append (h : Complete text) {skip : Nat} (hskip : skip < text.length)
    (before : Option Char) (post : List Char) :
    ifRevertsFrom skip before (text ++ post) =
      ifRevertsFrom skip before text ++ ifReverts post := by
  -- The characters of an `if` that was read are skipped; the last one stands before the end of the
  -- text, so none of what follows is skipped.
  induction text generalizing skip before with
  | nil => exact absurd rfl h.ne_nil
  | cons c rest ih =>
    have hlater : ∀ left, left ≤ rest.length - 1 → ifRevertsFrom left (some c) (rest ++ post) =
        ifRevertsFrom left (some c) rest ++ ifReverts post := by
      intro left hleft
      by_cases hrest : rest = []
      · -- The semicolon at the end is no part of a name, so an `if` may start after it.
        subst hrest
        obtain rfl : c = ';' := by simpa using h.last
        obtain rfl : left = 0 := Nat.le_zero.mp hleft
        exact ifRevertsFrom_of_not_name rfl post
      · have hpositive := List.length_pos_iff.mpr hrest
        exact ih (h.of_suffix (List.suffix_cons c rest) hrest) (by omega) (some c)
    rw [List.cons_append]
    cases skip with
    | succ skip =>
      rw [ifRevertsFrom, ifRevertsFrom]
      rw [List.length_cons] at hskip
      exact hlater skip (by omega)
    | zero =>
      rw [ifRevertsFrom, ifRevertsFrom]
      by_cases hname : before.any isNamePart = true
      · rw [if_pos hname, if_pos hname]
        exact hlater 0 (Nat.zero_le _)
      rw [if_neg hname, if_neg hname]
      have hhere := h.ifAt?_append post
      rw [List.cons_append] at hhere
      rw [hhere]
      cases hhead : ifAt? (c :: rest) with
      | none => exact hlater 0 (Nat.zero_le _)
      | some head =>
        obtain ⟨hafter, hlength⟩ := h.after_of_ifAt? hhead
        -- The `if` guards the same text in both, so it counts in both or in neither.
        have hreverts : (head.followedBy post).reverts = head.reverts := by
          rw [IfHead.reverts, IfHead.reverts, IfHead.followedBy, hafter.guarded?_append]
        rw [List.length_cons] at hlength
        have hrest := hlater (head.length - 1) (by omega)
        simp only [Option.map_some, hreverts]
        by_cases hguards : head.reverts = true
        · rw [if_pos hguards, if_pos hguards, List.cons_append, ← hrest]
          rfl
        · rw [if_neg hguards, if_neg hguards, ← hrest]
          rfl

end Complete

/-! ## Statements before other code -/

/-- The conditions of a text that ends in a semicolon, with its parentheses and its braces nested,
are the same whatever text follows: those of both texts together are those of the first and then
those of the second, in both shapes of guards. -/
theorem conditions_append {pre : List Char} (hlast : pre.getLast? = some ';')
    (hparens : Nested parens pre) (hbraces : Nested braces pre) (post : List Char) :
    requires (pre ++ post) = requires pre ++ requires post ∧
      ifReverts (pre ++ post) = ifReverts pre ++ ifReverts post := by
  have hcomplete : Complete pre := ⟨hlast, hparens.closes (by decide), hbraces.closes (by decide)⟩
  exact ⟨hcomplete.requiresFrom_append none post,
    hcomplete.ifRevertsFrom_append (List.length_pos_iff.mpr hcomplete.ne_nil) none post⟩

/-- A guarded block with a guard inside, and a statement. -/
def blockAndStatement : List Char :=
  "if (a) \x7b require(f(b)); revert(); \x7d x;".toList

/-- The guards of the block are those that the block has alone, although a guard follows. -/
theorem conditions_append_block :
    blockAndStatement.getLast? = some ';' ∧ Nested parens blockAndStatement ∧
      Nested braces blockAndStatement ∧
      requires (blockAndStatement ++ "if (c) revert();".toList) = ["f(b)".toList] ∧
      ifReverts (blockAndStatement ++ "if (c) revert();".toList) = ["a".toList, "c".toList] := by
  have hlast : blockAndStatement.getLast? = some ';' := by decide
  have hparens : Nested parens blockAndStatement := (nested_iff (by decide)).mpr (by decide)
  have hbraces : Nested braces blockAndStatement := (nested_iff (by decide)).mpr (by decide)
  obtain ⟨hrequires, hreverts⟩ := conditions_append hlast hparens hbraces "if (c) revert();".toList
  refine ⟨hlast, hparens, hbraces, ?_, ?_⟩
  · rw [hrequires]
    decide +kernel
  · rw [hreverts]
    decide +kernel

end TokenAudit.Condition
