import TokenAudit.Code.Call
import TokenAudit.Proofs.Conditions.Statements
import TokenAudit.Proofs.Text.Offset
import TokenAudit.Proofs.Text.Tokens

/-!
# Code that is laid out differently

Guards and calls are read from code whatever its layout is: where the reader of one kind of guard
skips all blanks, that of the other skips blanks of ASCII only, and tokens end at every blank. Where
all blanks are of ASCII, each of them reads the same in respaced texts, so collapsing the code
changes nothing.

## Main results

* `Condition.requiresFrom_respaced`, `Condition.ifRevertsFrom_respaced`, `Token.scanFrom_respaced`:
  each reader on respaced texts.
* `collapse_keeps_conditions_and_calls`: code and its collapsed form have the same conditions and
  calls.
-/

namespace TokenAudit

open Text Unicode

namespace Condition

/-! ## Blanks of ASCII -/

theorem isAsciiBlank_iff {c : Char} :
    isAsciiBlank c = true ↔ c ∈ [' ', '\t', '\n', '\r', '\x0c'] := by
  simp only [isAsciiBlank, Bool.or_eq_true, beq_iff_eq, List.mem_cons, List.not_mem_nil, or_false]
  grind

/-- What each blank of ASCII satisfies. -/
theorem of_isAsciiBlank (q : Char → Bool) (hq : [' ', '\t', '\n', '\r', '\x0c'].all q = true)
    {c : Char} (hc : isAsciiBlank c = true) : q c = true :=
  List.all_eq_true.mp hq c (isAsciiBlank_iff.mp hc)

theorem isBlank_of_isAsciiBlank {c : Char} (hc : isAsciiBlank c = true) : isBlank c = true :=
  of_isAsciiBlank isBlank (by decide) hc

theorem isWord_of_isAsciiBlank {c : Char} (hc : isAsciiBlank c = true) : isWord c = false := by
  simpa using of_isAsciiBlank (fun c => !isWord c) (by decide) hc

theorem isNamePart_of_isAsciiBlank {c : Char} (hc : isAsciiBlank c = true) :
    isNamePart c = false := by
  simpa using of_isAsciiBlank (fun c => !isNamePart c) (by decide) hc

theorem ne_of_isAsciiBlank {c d : Char} (hc : isAsciiBlank c = true) (hd : isAsciiBlank d = false) :
    c ≠ d := by
  rintro rfl
  rw [hc] at hd
  cases hd

variable {first second : List Char}

/-! ## Guards that state what must hold -/

theorem requireAt?_cons_eq_none {c : Char} (hc : c ≠ 'r') (rest : List Char) :
    requireAt? (c :: rest) = none := by
  have hword : ¬"require".toList.isPrefixOf (c :: rest) = true := by
    rw [List.isPrefixOf_iff_prefix]
    rintro ⟨tail, htail⟩
    have hfirst : some 'r' = some c := congrArg List.head? htail
    exact hc (Option.some.inj hfirst).symm
  unfold requireAt?
  exact if_neg hword

/-- No `require` starts at a blank, and one may start after it. -/
theorem restarts_requiresFrom :
    Restarts isAsciiBlank requiresFrom none fun _ conditions => conditions where
  nil _ := rfl
  cons before c rest hc := by
    have hnone : requireAt? (c :: rest) = none :=
      requireAt?_cons_eq_none (ne_of_isAsciiBlank hc rfl) rest
    have hstep : requiresFrom before (c :: rest) = requiresFrom (some c) rest := by
      rw [requiresFrom, hnone]
      exact ite_self _
    have hbefore : (some c).any isWord = false := isWord_of_isAsciiBlank hc
    rw [hstep, requiresFrom_of_not_word hbefore]
    rfl
  start _ := rfl

/-- A `require` at the start of respaced texts has the same condition. -/
theorem requireAt?_respaced (h : Respaced isAsciiBlank first second) :
    requireAt? first = requireAt? second := by
  have hword : ∀ c ∈ "require".toList, isAsciiBlank c = false := by
    simpa using List.all_eq_true.mp (show "require".toList.all (!isAsciiBlank ·) = true by decide)
  have hstart : "require".toList.isPrefixOf first = "require".toList.isPrefixOf second := by
    rw [Bool.eq_iff_iff, List.isPrefixOf_iff_prefix, List.isPrefixOf_iff_prefix]
    exact h.prefix_iff hword
  unfold requireAt?
  dsimp only
  rw [hstart]
  by_cases hfound : "require".toList.isPrefixOf second = true
  · rw [if_pos hfound, if_pos hfound]
    obtain ⟨tail', rfl⟩ := List.isPrefixOf_iff_prefix.mp hfound
    obtain ⟨tail, rfl, htail⟩ := h.symm.exists_of_append hword
    rw [List.drop_left, List.drop_left]
    rcases htail.symm.dropWhile_cases fun _ => isBlank_of_isAsciiBlank with
      ⟨hfirst, hsecond⟩ | ⟨c, rest, rest', hfirst, hsecond, _, hrest⟩
    · rw [hfirst, hsecond]
    · rw [hfirst, hsecond]
      by_cases hc : c = '('
      · subst hc
        have hread := hrest.enclosed parens rfl rfl (some requireDepth)
        change Option.map _ (enclosed parens _ rest) = Option.map _ (enclosed parens _ rest')
        generalize enclosed parens (some requireDepth) rest = read at hread ⊢
        generalize enclosed parens (some requireDepth) rest' = read' at hread ⊢
        cases hread with
        | none => rfl
        | some hread =>
          exact congrArg some (hread.1.collapseChars_eq fun _ => isBlank_of_isAsciiBlank)
      · simp [hc]
  · rw [if_neg hfound, if_neg hfound]

/-- The guards from some place of respaced texts on are the same. -/
theorem requiresFrom_respaced (h : Respaced isAsciiBlank first second) (before : Option Char) :
    requiresFrom before first = requiresFrom before second := by
  refine restarts_requiresFrom.eq_of_respaced (fun hc hrest ih before => ?_) h before
  rw [requiresFrom, requiresFrom, requireAt?_respaced (.char hc hrest), ih]

/-! ## Guards that state what must not hold -/

/-- A text that does not start with `if` starts with no guard. -/
theorem ifAt?_eq_none_of_no_if {text : List Char} (h : ¬['i', 'f'] <+: text) :
    ifAt? text = none := by
  unfold ifAt?
  split
  · next rest => exact absurd (List.prefix_append ['i', 'f'] rest) h
  · rfl

/-- Where no guard starts, the guards are those from the next character on. -/
theorem ifRevertsFrom_cons_of_eq_none {c : Char} {rest : List Char} (h : ifAt? (c :: rest) = none)
    (before : Option Char) :
    ifRevertsFrom 0 before (c :: rest) = ifRevertsFrom 0 (some c) rest := by
  rw [ifRevertsFrom, h]
  exact ite_self _

/-- Characters that are skipped do not matter. -/
theorem ifRevertsFrom_append_length (front : List Char) (before : Option Char) (rest : List Char) :
    ifRevertsFrom front.length before (front ++ rest) =
      ifRevertsFrom 0 (lastBefore before front) rest := by
  induction front generalizing before with
  | nil => rfl
  | cons c front ih => rw [List.cons_append, List.length_cons, ifRevertsFrom, ih, lastBefore_cons]

/-- Where a guard starts, its condition counts if it guards a `revert`, and the search goes on after
the condition. -/
theorem ifRevertsFrom_of_eq_some {text : List Char} {head : IfHead} (h : ifAt? text = some head)
    {before : Option Char} (hbefore : before.any isNamePart = false) :
    ifRevertsFrom 0 before text =
      (if head.reverts then [collapseChars head.condition] else []) ++ ifReverts head.after := by
  obtain ⟨front, rfl, hlength⟩ := exists_of_ifAt?_eq_some h
  -- The first character of the guard is read, and those up to the closing parenthesis are skipped.
  obtain ⟨c, tail, htail⟩ : ∃ c tail, front ++ [')'] = c :: tail :=
    List.exists_cons_of_ne_nil (by simp)
  have htext : front ++ ')' :: head.after = c :: (tail ++ head.after) := by
    rw [← List.cons_append, ← htail, List.append_assoc, List.singleton_append]
  have hskip : head.length - 1 = tail.length := by
    have hsame := congrArg List.length htail
    rw [List.length_append, List.length_singleton, List.length_cons] at hsame
    omega
  have hlater : ifRevertsFrom tail.length (some c) (tail ++ head.after) = ifReverts head.after := by
    have hlast : lastBefore (some c) tail = some ')' := by
      rw [← lastBefore_cons none, ← htail, lastBefore_append]
      rfl
    have hclosed : (lastBefore (some c) tail).any isNamePart = false := by
      rw [hlast]
      rfl
    rw [ifRevertsFrom_append_length, ifRevertsFrom_of_not_name hclosed]
  rw [htext] at h ⊢
  rw [ifRevertsFrom, if_neg (by simp [hbefore]), h]
  dsimp only
  rw [hskip, hlater]
  split <;> rfl

/-- No `if` starts at a blank, and one may start after it. -/
theorem restarts_ifRevertsFrom :
    Restarts isAsciiBlank (ifRevertsFrom 0) none fun _ conditions => conditions where
  nil _ := rfl
  cons before c rest hc := by
    have hnone : ifAt? (c :: rest) = none := by
      refine ifAt?_eq_none_of_no_if fun hstart => ?_
      exact ne_of_isAsciiBlank hc rfl (List.cons_prefix_cons.mp hstart).1.symm
    have hbefore : (some c).any isNamePart = false := isNamePart_of_isAsciiBlank hc
    rw [ifRevertsFrom_cons_of_eq_none hnone, ifRevertsFrom_of_not_name hbefore]
    rfl
  start _ := rfl

/-- An `if` at the start of respaced texts has respaced conditions, and respaced texts follow. -/
theorem ifAt?_respaced (h : Respaced isAsciiBlank first second) :
    Option.Rel (fun head head' => Respaced isAsciiBlank head.condition head'.condition ∧
      Respaced isAsciiBlank head.after head'.after) (ifAt? first) (ifAt? second) := by
  have hword : ∀ c ∈ ['i', 'f'], isAsciiBlank c = false := by simp [isAsciiBlank]
  by_cases hstart : ['i', 'f'] <+: first
  · obtain ⟨rest, rfl⟩ := hstart
    obtain ⟨rest', rfl, hrest⟩ := h.exists_of_append hword
    simp only [List.cons_append, List.nil_append, ifAt?, splitWhile]
    rw [hrest.any_head?_eq fun _ => isNamePart_of_isAsciiBlank]
    split
    · exact .none
    · rcases hrest.dropWhile_cases fun _ hc => hc with
        ⟨hfirst, hsecond⟩ | ⟨c, inside, inside', hfirst, hsecond, _, hinside⟩
      · rw [hfirst, hsecond]
        exact .none
      · rw [hfirst, hsecond]
        by_cases hc : c = '('
        · subst hc
          have hread := hinside.enclosed parens rfl rfl none
          change Option.Rel _ (Option.map _ (enclosed parens _ inside))
            (Option.map _ (enclosed parens _ inside'))
          generalize enclosed parens none inside = read at hread ⊢
          generalize enclosed parens none inside' = read' at hread ⊢
          cases hread with
          | none => exact .none
          | some hread => exact .some hread
        · simp [hc]
  · have hstart' : ¬['i', 'f'] <+: second := fun h' => hstart ((h.prefix_iff hword).mpr h')
    rw [ifAt?_eq_none_of_no_if hstart, ifAt?_eq_none_of_no_if hstart']
    exact .none

/-- What an `if` guards in respaced texts is respaced. -/
theorem guarded?_respaced (h : Respaced isAsciiBlank first second) :
    Option.Rel (Respaced isAsciiBlank) (guarded? first) (guarded? second) := by
  unfold guarded?
  rcases h.dropWhile_cases fun _ hc => hc with
    ⟨hfirst, hsecond⟩ | ⟨c, rest, rest', hfirst, hsecond, hc, hrest⟩
  · rw [hfirst, hsecond]
    exact .none
  · rw [hfirst, hsecond]
    dsimp only
    split
    · have hread := hrest.enclosed braces rfl rfl none
      generalize enclosed braces none rest = read at hread ⊢
      generalize enclosed braces none rest' = read' at hread ⊢
      cases hread with
      | none => exact .none
      | some hread => exact .some hread.1
    · have hstatement : Respaced isAsciiBlank (c :: rest) (c :: rest') := .char hc hrest
      have hsemicolon : (c :: rest).contains ';' = (c :: rest').contains ';' := by
        rw [Bool.eq_iff_iff, List.contains_iff_mem, List.contains_iff_mem]
        exact hstatement.mem_iff rfl
      rw [hsemicolon]
      split
      · exact .some (hstatement.takeWhile fun d hd => by simpa using ne_of_isAsciiBlank hd rfl)
      · exact .none

/-- Whether an `if` guards a `revert` can be seen from a respaced text. -/
theorem reverts_respaced {head head' : IfHead} (h : Respaced isAsciiBlank head.after head'.after) :
    head.reverts = head'.reverts := by
  have hword : ∀ c ∈ "revert".toList, isAsciiBlank c = false := by
    simpa using List.all_eq_true.mp (show "revert".toList.all (!isAsciiBlank ·) = true by decide)
  have hguarded := guarded?_respaced h
  rw [IfHead.reverts, IfHead.reverts]
  generalize guarded? head.after = block at hguarded ⊢
  generalize guarded? head'.after = block' at hguarded ⊢
  cases hguarded with
  | none => rfl
  | some hblock =>
    rw [Option.any_some, Option.any_some, Bool.eq_iff_iff, hasInfix_iff, hasInfix_iff]
    exact hblock.infix_iff (by decide) hword

/-- The guards from some place of respaced texts on are the same. -/
theorem ifRevertsFrom_respaced (h : Respaced isAsciiBlank first second) (before : Option Char) :
    ifRevertsFrom 0 before first = ifRevertsFrom 0 before second := by
  -- By induction on the length: the search goes on after the condition of a guard.
  induction hlength : first.length using Nat.strong_induction_on
    generalizing first second before with
  | _ n ih =>
    subst hlength
    cases h with
    | ends hfirst hsecond =>
      rw [restarts_ifRevertsFrom.of_gap hfirst, restarts_ifRevertsFrom.of_gap hsecond]
    | gap hne hne' hgap hgap' hrest =>
      have hpositive := List.length_pos_iff.mpr hne
      rw [restarts_ifRevertsFrom.gap_append hne hgap, restarts_ifRevertsFrom.gap_append hne' hgap']
      exact ih _ (by rw [List.length_append]; omega) hrest none rfl
    | @char c first second hc hrest =>
      have hlater : ifRevertsFrom 0 (some c) first = ifRevertsFrom 0 (some c) second :=
        ih _ (by rw [List.length_cons]; omega) hrest (some c) rfl
      by_cases hname : before.any isNamePart = true
      · rw [ifRevertsFrom, ifRevertsFrom, if_pos hname, if_pos hname, hlater]
      rw [Bool.not_eq_true] at hname
      have hread := ifAt?_respaced (.char hc hrest)
      generalize hfirst : ifAt? (c :: first) = found at hread
      generalize hsecond : ifAt? (c :: second) = found' at hread
      cases hread with
      | none =>
        rw [ifRevertsFrom_cons_of_eq_none hfirst, ifRevertsFrom_cons_of_eq_none hsecond, hlater]
      | @some head head' hread =>
        have hshorter : head.after.length < (c :: first).length := by
          obtain ⟨front, heq, _⟩ := exists_of_ifAt?_eq_some hfirst
          rw [heq, List.length_append, List.length_cons]
          omega
        have hafter : ifReverts head.after = ifReverts head'.after :=
          ih _ hshorter hread.2 none rfl
        rw [ifRevertsFrom_of_eq_some hfirst hname, ifRevertsFrom_of_eq_some hsecond hname,
          reverts_respaced hread.2, hread.1.collapseChars_eq fun _ => isBlank_of_isAsciiBlank,
          hafter]

end Condition

/-! ## Calls -/

namespace Token

theorem restarts_scanFrom :
    Restarts Condition.isAsciiBlank scanFrom [] fun word tokens => scanFrom word [] ++ tokens :=
  restarts_scanFrom_isBlank.mono fun _ => Condition.isBlank_of_isAsciiBlank

/-- Respaced texts have the same tokens. -/
theorem scanFrom_respaced {first second : List Char}
    (h : Respaced Condition.isAsciiBlank first second) (word : List Char) :
    scanFrom word first = scanFrom word second := by
  refine restarts_scanFrom.eq_of_respaced (fun _ _ ih word => ?_) h word
  rw [scanFrom, scanFrom, ih, ih]

end Token

/-! ## Collapsed code -/

/-- Code whose blanks are all spaces, tabs, line feeds, carriage returns and form feeds has the same
conditions and the same calls when it is collapsed. -/
theorem collapse_keeps_conditions_and_calls {code : String}
    (hblanks : ∀ c ∈ code.toList, isBlank c = true → c ∈ [' ', '\t', '\n', '\r', '\x0c']) :
    Condition.requires (collapse code).toList = Condition.requires code.toList ∧
      Condition.ifReverts (collapse code).toList = Condition.ifReverts code.toList ∧
      callNames (collapse code) = callNames code := by
  have hcode : ∀ c ∈ code.toList, Condition.isAsciiBlank c = isBlank c := by
    intro c hc
    rw [Bool.eq_iff_iff]
    exact ⟨Condition.isBlank_of_isAsciiBlank, fun hblank =>
      Condition.isAsciiBlank_iff.mpr (hblanks c hc hblank)⟩
  rw [callNames, callNames, collapse, String.toList_ofList]
  refine ⟨?_, ?_, congrArg (callNamesFrom none) ?_⟩
  · exact Condition.restarts_requiresFrom.read_collapseChars
      (fun h => Condition.requiresFrom_respaced h none) rfl hcode
  · exact Condition.restarts_ifRevertsFrom.read_collapseChars
      (fun h => Condition.ifRevertsFrom_respaced h none) rfl hcode
  · exact Token.restarts_scanFrom.read_collapseChars
      (fun h => Token.scanFrom_respaced h []) rfl hcode

/-- Code with a gap of another kind at each place. -/
def spacedOut : String :=
  "\n require\t( a\x0c== b ) ; if\r\n(c) \x7b\nrevert( ) ; \x7d f\n( x )\t"

/-- Such code has the conditions and calls of its collapsed form. -/
theorem collapse_keeps_conditions_and_calls_spacedOut :
    (∀ c ∈ spacedOut.toList, isBlank c = true → c ∈ [' ', '\t', '\n', '\r', '\x0c']) ∧
      Condition.requires (collapse spacedOut).toList = ["a == b".toList] ∧
      Condition.ifReverts (collapse spacedOut).toList = ["c".toList] ∧
      callNames (collapse spacedOut) = ["f"] := by
  have hblanks : ∀ c ∈ spacedOut.toList, isBlank c = true →
      c ∈ [' ', '\t', '\n', '\r', '\x0c'] := by
    have hall : spacedOut.toList.all (fun c =>
        !isBlank c || [' ', '\t', '\n', '\r', '\x0c'].contains c) = true := by decide +kernel
    intro c hc hblank
    simpa [hblank] using List.all_eq_true.mp hall c hc
  obtain ⟨hrequires, hreverts, hcalls⟩ := collapse_keeps_conditions_and_calls hblanks
  exact ⟨hblanks, hrequires.trans (by decide +kernel), hreverts.trans (by decide +kernel),
    hcalls.trans (by decide +kernel)⟩

end TokenAudit
