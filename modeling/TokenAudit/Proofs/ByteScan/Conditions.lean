import TokenAudit.Proofs.ByteScan.Basic
import TokenAudit.Proofs.Conditions.Reformatted

/-!
# Conditions by offset

The condition of a `require` is cut out between the offsets of its parentheses. The guards that
revert are looked for in rounds: each starts at a position, finds the next `if`, reads its condition
and what it guards, and leaves the position from which the next round starts. That position is a
boundary behind the one before, so the rounds come to an end.

## Main definitions

* `requiresAt`: the conditions of every `require`, by offsets.
* `ifRound`, `ifRounds`: one round of the search for guards that revert, and all of them.

## Main results

* `requiresAt_eq_ok`: the conditions of every `require` are cut out without a fault.
* `ifRound_eq_ok`: a round ends without a fault and moves on.
* `ifRounds_eq_ok`: the rounds end without a fault, with the conditions that the walk over the
  characters finds.
-/

namespace TokenAudit.ByteScan

open Text Unicode Condition

/-! ## Guards that state what must hold -/

/-- The `require` that a text starts with, up to its parenthesis, and what follows that. -/
def requireOpen? (text : List Char) : Option (List Char × List Char) :=
  let word := "require".toList
  if word.isPrefixOf text then
    let (gap, opened) := splitWhile isBlank (text.drop word.length)
    match opened with
    | [] => none
    | c :: argument => if c == '(' then some (word ++ gap, argument) else none
  else none

/-- The parentheses that a `require` opens in a text that starts at byte `offset` after the
character `before`: the offset of each and the text after it. -/
def requireOpensFrom (before : Option Char) (offset : Nat) : List Char → List (Nat × List Char)
  | [] => []
  | c :: rest =>
    let later := requireOpensFrom (some c) (offset + c.utf8Size) rest
    if before.any isWord then later
    else
      match requireOpen? (c :: rest) with
      | none => later
      | some (head, argument) => (offset + byteLength head, argument) :: later

/-- The condition in the parentheses of a `require` that open at an offset. -/
def conditionAt (code : List Char) (opened : Nat) : Except ScanFault (Option (List Char)) := do
  match ← closeAt parens (some requireDepth) code opened with
  | none => return none
  | some closed =>
    let inner ← slice code (opened + 1) closed
    return some (collapseChars inner)

/-- The conditions of every `require`, by offsets. -/
def requiresAt (code : List Char) : Except ScanFault (List (List Char)) :=
  collect (fun (opened, _) => conditionAt code opened) (requireOpensFrom none 0 code)

/-- The condition in parentheses that open before `argument`. -/
def argumentCondition? (argument : List Char) : Option (List Char) :=
  (enclosed parens (some requireDepth) argument).map fun (inner, _) => collapseChars inner

/-- The condition of a `require` is the one in the parentheses that it opens. -/
theorem requireAt?_eq_bind (text : List Char) :
    requireAt? text = (requireOpen? text).bind fun read => argumentCondition? read.2 := by
  rw [requireAt?, requireOpen?]
  dsimp only [splitWhile]
  split
  · cases (text.drop "require".toList.length).dropWhile isBlank with
    | nil => rfl
    | cons c argument =>
      dsimp only
      by_cases hc : c = '('
      · subst hc
        rfl
      · rw [if_neg (by simpa using hc)]
        split
        · next hopened => exact absurd (List.cons.inj hopened).1 hc
        · rfl
  · rfl

/-- A `require` stands before its parenthesis. -/
theorem eq_append_of_requireOpen?_eq_some {text head argument : List Char}
    (h : requireOpen? text = some (head, argument)) : text = head ++ parens.opener :: argument := by
  rw [requireOpen?] at h
  dsimp only [splitWhile] at h
  split at h
  · next hword =>
    obtain ⟨tail, rfl⟩ := List.isPrefixOf_iff_prefix.mp hword
    rw [List.drop_left] at h
    split at h
    · cases h
    · next c rest hopened =>
      split at h
      · next hc =>
        cases h
        have hparts := List.takeWhile_append_dropWhile (p := isBlank) (l := tail)
        rw [hopened, beq_iff_eq.mp hc] at hparts
        rw [List.append_assoc]
        exact congrArg _ hparts.symm
      · cases h
  · cases h

/-- The conditions that the walk over the characters finds are those in the parentheses. -/
theorem requiresFrom_eq_filterMap (before : Option Char) (offset : Nat) (text : List Char) :
    requiresFrom before text =
      (requireOpensFrom before offset text).filterMap fun place => argumentCondition? place.2 := by
  induction text generalizing before offset with
  | nil => rfl
  | cons c rest ih =>
    rw [requiresFrom, requireOpensFrom, requireAt?_eq_bind, ih (some c) (offset + c.utf8Size)]
    split
    · rfl
    · cases requireOpen? (c :: rest) with
      | none => rfl
      | some read =>
        rw [List.filterMap_cons, Option.bind_some]
        cases argumentCondition? read.2 <;> rfl

/-- The parentheses of a `require` open where they are listed. -/
theorem exists_of_mem_requireOpensFrom {before : Option Char} {offset opened : Nat}
    {text argument : List Char} (h : (opened, argument) ∈ requireOpensFrom before offset text) :
    ∃ front, text = front ++ parens.opener :: argument ∧ opened = offset + byteLength front := by
  induction text generalizing before offset with
  | nil => simp [requireOpensFrom] at h
  | cons c rest ih =>
    have hnext : (opened, argument) ∈ requireOpensFrom (some c) (offset + c.utf8Size) rest →
        ∃ front, c :: rest = front ++ parens.opener :: argument ∧
          opened = offset + byteLength front := by
      intro hrest
      obtain ⟨front, rfl, rfl⟩ := ih hrest
      exact ⟨c :: front, rfl, by rw [byteLength_cons, Nat.add_assoc]⟩
    rw [requireOpensFrom] at h
    split at h
    · exact hnext h
    · split at h
      · exact hnext h
      · next hread =>
        rcases List.mem_cons.mp h with hhere | hrest
        · cases hhere
          exact ⟨_, eq_append_of_requireOpen?_eq_some hread, rfl⟩
        · exact hnext hrest

/-- The condition in parentheses that open at a boundary is cut out without a fault. -/
theorem conditionAt_eq_ok (before argument : List Char) :
    conditionAt (before ++ parens.opener :: argument) (byteLength before) =
      .ok (argumentCondition? argument) := by
  rw [conditionAt, closeAt_opener oneByte_parens rfl, argumentCondition?]
  cases hread : enclosed parens (some requireDepth) argument with
  | none => rfl
  | some read =>
    simp only [bind, Except.bind, Option.map_some, slice_enclosed oneByte_parens hread]
    rfl

/-- The conditions of every `require` are cut out without a fault. -/
theorem requiresAt_eq_ok (code : List Char) : requiresAt code = .ok (requires code) := by
  rw [requires, requiresFrom_eq_filterMap none 0]
  refine collect_eq_ok ?_
  rintro ⟨opened, argument⟩ hmem
  obtain ⟨front, hcode, rfl⟩ := exists_of_mem_requireOpensFrom hmem
  rw [hcode, Nat.zero_add]
  exact conditionAt_eq_ok front argument

/-! ## Guards that state what must not hold -/

/-- The bytes that can continue a name. -/
def isNameByte (b : UInt8) : Bool :=
  (byteOf 'a' ≤ b && b ≤ byteOf 'z') || (byteOf 'A' ≤ b && b ≤ byteOf 'Z') || b == byteOf '_' ||
    b == byteOf '$' || (byteOf '0' ≤ b && b ≤ byteOf '9')

/-- The bytes of the blanks of ASCII, the vertical tab excepted. -/
def isBlankByte (b : UInt8) : Bool :=
  b == byteOf ' ' || b == byteOf '\t' || b == byteOf '\n' || b == byteOf '\x0c' || b == byteOf '\r'

theorem tells_isNameByte : Tells isNameByte isNamePart :=
  ((((Tells.range (by decide) (by decide)).or (Tells.range (by decide) (by decide))).or
    (Tells.eq (by decide))).or (Tells.eq (by decide))).or (Tells.range (by decide) (by decide))

theorem tells_isBlankByte : Tells isBlankByte isAsciiBlank :=
  ((((Tells.eq (by decide)).or (Tells.eq (by decide))).or (Tells.eq (by decide))).or
    (Tells.eq (by decide))).or (Tells.eq (by decide))

/-- Whether the two bytes at an offset are no part of a longer name. -/
def standsAlone (code : List Char) (here : Nat) : Except ScanFault Bool := do
  let free ←
    if here = 0 then pure true
    else
      match (bytes code)[here - 1]? with
      | none => .error (.index (here - 1))
      | some b => pure (!isNameByte b)
  return free && !(bytes code)[here + 2]?.any isNameByte

/-- The offset behind the blanks at an offset. -/
def skipBlanks (code : List Char) (here : Nat) : Nat :=
  here + (((bytes code).drop here).takeWhile isBlankByte).length

/-- The offset of the first occurrence of `part` in a text that starts at the offset `here`. -/
def findText (part : List Char) (here : Nat) : List Char → Option Nat
  | [] => if part.isEmpty then some here else none
  | c :: rest =>
    if part.isPrefixOf (c :: rest) then some here else findText part (here + c.utf8Size) rest

/-- The offsets of the parentheses behind the blanks at an offset. -/
def parensBehind (code : List Char) (here : Nat) : Except ScanFault (Option (Nat × Nat)) :=
  let opened := skipBlanks code here
  if (bytes code)[opened]?.any (· == byteOf '(') then
    (·.map fun closed => (opened, closed)) <$> closeAt parens none code opened
  else .ok none

/-- The offsets of the parentheses of the `if` at an offset. -/
def ifParens (code : List Char) (here : Nat) : Except ScanFault (Option (Nat × Nat)) := do
  if ← standsAlone code here then parensBehind code (here + 2) else return none

/-- The offset where the block or the statement that starts at an offset ends. -/
def guardedStop (code : List Char) (start : Nat) : Except ScanFault (Option Nat) := do
  if (bytes code)[start]?.any (· == byteOf '\x7b') then closeAt braces none code start
  else
    let rest ← slice code start (byteLength code)
    return findText [';'] start rest

/-- Whether the block or the statement behind the blanks at an offset mentions `revert`. -/
def revertsBehind (code : List Char) (here : Nat) : Except ScanFault Bool := do
  let start := skipBlanks code here
  match ← guardedStop code start with
  | none => return false
  | some stop =>
    let block ← slice code start stop
    return hasInfix "revert".toList block

/-- What a round of the search leaves. -/
structure IfRound where
  /-- The position from which the next round starts. -/
  next : Nat
  /-- The condition, if the round finds one that guards a `revert`. -/
  found : Option (List Char)

/-- A round of the search that has found an `if` at an offset. -/
def ifGuard (code : List Char) (here : Nat) : Except ScanFault IfRound := do
  match ← ifParens code here with
  | none => return ⟨here + 2, none⟩
  | some (opened, closed) =>
    if ← revertsBehind code (closed + 1) then
      let condition ← slice code (opened + 1) closed
      return ⟨closed + 1, some (collapseChars condition)⟩
    else return ⟨closed + 1, none⟩

/-- One round of the search from a position on; `none` if there is no `if` left. -/
def ifRound (code : List Char) (position : Nat) : Except ScanFault (Option IfRound) := do
  let rest ← slice code position (byteLength code)
  match findText ['i', 'f'] position rest with
  | none => return none
  | some here => some <$> ifGuard code here

/-- All rounds of the search from a position on. -/
def ifRounds (code : List Char) (position : Nat) : Except ScanFault (List (List Char)) := do
  match ← ifRound code position with
  | none => return []
  | some round =>
    if position < round.next ∧ round.next ≤ byteLength code then
      let later ← ifRounds code round.next
      return round.found.toList ++ later
    else .error (.stuck position)
termination_by byteLength code - position

theorem byteLength_if (front : List Char) :
    byteLength (front ++ ['i', 'f']) = byteLength front + 2 := by
  rw [byteLength_append]
  rfl

/-- Whether an `if` stands alone is told without a fault: by the characters around it. -/
theorem standsAlone_eq_ok (front rest : List Char) :
    standsAlone (front ++ 'i' :: 'f' :: rest) (byteLength front) =
      .ok (!front.getLast?.any isNamePart && !rest.head?.any isNamePart) := by
  have hafter : (bytes (front ++ 'i' :: 'f' :: rest))[byteLength front + 2]?.any isNameByte =
      rest.head?.any isNamePart := by
    rw [← byteLength_if front, List.append_cons, List.append_cons, List.append_assoc front]
    exact tells_isNameByte.any_getElem? ..
  -- There is a byte before the word unless the word starts the text.
  rw [standsAlone, hafter]
  rcases List.eq_nil_or_concat front with rfl | ⟨init, c, rfl⟩
  · rfl
  · have hpos : byteLength (init ++ [c]) ≠ 0 := by
      have := c.utf8Size_pos
      rw [byteLength_append, byteLength_cons]
      omega
    have hbefore := tells_isNameByte.map_getElem?_last init c ('i' :: 'f' :: rest)
    obtain ⟨b, hb, hname⟩ := Option.map_eq_some_iff.mp hbefore
    rw [List.concat_eq_append, if_neg hpos, List.append_assoc, List.singleton_append, hb,
      List.getLast?_concat, Option.any_some, ← hname]
    rfl

/-- Blanks are skipped up to a boundary. -/
theorem skipBlanks_eq (front rest : List Char) :
    skipBlanks (front ++ rest) (byteLength front) =
      byteLength (front ++ rest.takeWhile isAsciiBlank) := by
  rw [skipBlanks, drop_bytes, tells_isBlankByte.length_takeWhile, byteLength_append]

/-- The character behind the blanks is told by its byte. -/
theorem any_getElem?_skipBlanks {d : Char} (hd : d.toNat < 0x80) (front rest : List Char) :
    (bytes (front ++ rest))[skipBlanks (front ++ rest) (byteLength front)]?.any (· == byteOf d) =
      (rest.dropWhile isAsciiBlank).head?.any (· == d) := by
  have hparts : bytes (front ++ rest) =
      bytes ((front ++ rest.takeWhile isAsciiBlank) ++ rest.dropWhile isAsciiBlank) := by
    rw [List.append_assoc, List.takeWhile_append_dropWhile]
  rw [skipBlanks_eq, hparts]
  exact (Tells.eq hd).any_getElem? ..

/-- The blanks, the condition in parentheses behind them, and what follows. -/
def condition? (text : List Char) : Option (List Char × List Char × List Char) :=
  match text.dropWhile isAsciiBlank with
  | [] => none
  | c :: inside =>
    if c == '(' then
      (enclosed parens none inside).map fun (inner, after) =>
        (text.takeWhile isAsciiBlank, inner, after)
    else none

/-- An `if` is followed by no part of a name and by its condition. -/
theorem ifAt?_if (rest : List Char) :
    ifAt? ('i' :: 'f' :: rest) =
      if rest.head?.any isNamePart then none
      else (condition? rest).map fun read =>
        ⟨read.2.1, 2 + read.1.length + 1 + read.2.1.length + 1, read.2.2⟩ := by
  rw [ifAt?, condition?]
  dsimp only [splitWhile]
  split
  · rfl
  · cases rest.dropWhile isAsciiBlank with
    | nil => rfl
    | cons c inside =>
      dsimp only
      by_cases hc : c = '('
      · subst hc
        rw [if_pos (beq_self_eq_true '('), Option.map_map]
        rfl
      · rw [if_neg (by simpa using hc)]
        split
        · next hopened => exact absurd (List.cons.inj hopened).1 hc
        · rfl

/-- A condition is what its parentheses enclose, behind the blanks. -/
theorem condition?_eq_some {text gap inner after : List Char}
    (h : condition? text = some (gap, inner, after)) :
    ∃ inside, text = gap ++ parens.opener :: inside ∧
      enclosed parens none inside = some (inner, after) := by
  rw [condition?] at h
  split at h
  · cases h
  · next c inside hopened =>
    split at h
    · next hc =>
      obtain ⟨⟨inner, after⟩, hread, ⟨⟩⟩ := Option.map_eq_some_iff.mp h
      have hparts := List.takeWhile_append_dropWhile (p := isAsciiBlank) (l := text)
      rw [hopened, beq_iff_eq.mp hc] at hparts
      exact ⟨inside, hparts.symm, hread⟩
    · cases h

/-- The parentheses of a condition are looked for without a fault, and found where it stands. -/
theorem parensBehind_eq_ok (front rest : List Char) :
    parensBehind (front ++ rest) (byteLength front) =
      .ok ((condition? rest).map fun read =>
        (byteLength (front ++ read.1),
          byteLength (front ++ read.1) + 1 + byteLength read.2.1)) := by
  rw [parensBehind, any_getElem?_skipBlanks (by decide), skipBlanks_eq, condition?]
  cases hopened : rest.dropWhile isAsciiBlank with
  | nil => rfl
  | cons c inside =>
    by_cases hc : c = '('
    · have hcode : front ++ rest =
          (front ++ rest.takeWhile isAsciiBlank) ++ parens.opener :: inside := by
        rw [List.append_assoc, show parens.opener = c from hc.symm, ← hopened,
          List.takeWhile_append_dropWhile]
      have hparen : (c == '(') = true := beq_iff_eq.mpr hc
      rw [List.head?_cons, Option.any_some, if_pos hparen, hcode,
        closeAt_opener oneByte_parens rfl]
      dsimp only
      rw [if_pos hparen]
      cases enclosed parens none inside <;> rfl
    · have hparen : ¬(c == '(') = true := fun h => hc (beq_iff_eq.mp h)
      rw [List.head?_cons, Option.any_some, if_neg hparen]
      dsimp only
      rw [if_neg hparen]
      rfl

/-- The parentheses of an `if` are looked for without a fault. -/
theorem ifParens_eq_ok (front rest : List Char) :
    ifParens (front ++ 'i' :: 'f' :: rest) (byteLength front) =
      .ok (if front.getLast?.any isNamePart || rest.head?.any isNamePart then none
        else (condition? rest).map fun read =>
          (byteLength (front ++ ['i', 'f'] ++ read.1),
            byteLength (front ++ ['i', 'f'] ++ read.1) + 1 + byteLength read.2.1)) := by
  have hcode : front ++ 'i' :: 'f' :: rest = front ++ ['i', 'f'] ++ rest := by simp
  rw [ifParens, standsAlone_eq_ok, hcode, ← byteLength_if front, parensBehind_eq_ok]
  cases front.getLast?.any isNamePart
  · cases rest.head?.any isNamePart <;> rfl
  · rfl

/-- The first semicolon of a text. -/
theorem findText_semicolon (here : Nat) (text : List Char) :
    findText [';'] here text =
      if text.contains ';' then some (here + byteLength (text.takeWhile (· != ';'))) else none := by
  induction text generalizing here with
  | nil => rfl
  | cons c rest ih =>
    rw [findText, ih, List.takeWhile_cons, List.contains_cons]
    by_cases hc : c = ';'
    · subst hc
      rfl
    · have hfirst : [';'].isPrefixOf (c :: rest) = false := by
        rw [List.isPrefixOf_cons_cons, beq_eq_false_iff_ne.mpr (Ne.symm hc), Bool.false_and]
      rw [hfirst, bne_iff_ne.mpr hc, beq_eq_false_iff_ne.mpr (Ne.symm hc), Bool.false_or,
        if_pos rfl, byteLength_cons, Nat.add_assoc]
      rfl

/-- The block at the start of a text, its opening brace included, or the statement there. -/
def block? : List Char → Option (List Char)
  | [] => none
  | c :: rest =>
    if c == '\x7b' then (enclosed braces none rest).map fun (inner, _) => c :: inner
    else if (c :: rest).contains ';' then some ((c :: rest).takeWhile (· != ';'))
    else none

/-- A block is the front of its text. -/
theorem eq_append_of_block?_eq_some {text block : List Char} (h : block? text = some block) :
    ∃ after, text = block ++ after := by
  fun_cases block? text with
  | case1 => cases h
  | case2 c rest hbrace =>
    rw [block?, if_pos hbrace] at h
    obtain ⟨⟨inner, after⟩, hread, rfl⟩ := Option.map_eq_some_iff.mp h
    exact ⟨braces.closer :: after, congrArg (c :: ·) (eq_append_of_enclosedAt_eq_some hread)⟩
  | case3 c rest hbrace hsemicolon =>
    rw [block?, if_neg hbrace, if_pos hsemicolon] at h
    cases h
    exact ⟨_, List.takeWhile_append_dropWhile.symm⟩
  | case4 c rest hbrace hsemicolon =>
    rw [block?, if_neg hbrace, if_neg hsemicolon] at h
    cases h

/-- The brace before a block does not matter for what the block mentions. -/
theorem any_guarded? (text : List Char) :
    (guarded? text).any (hasInfix "revert".toList) =
      (block? (text.dropWhile isAsciiBlank)).any (hasInfix "revert".toList) := by
  rw [guarded?]
  cases text.dropWhile isAsciiBlank with
  | nil => rfl
  | cons c rest =>
    rw [block?]
    dsimp only
    split
    · next hbrace =>
      rw [beq_iff_eq.mp hbrace]
      cases enclosed braces none rest <;> rfl
    · rfl

/-- The end of a block is found without a fault. -/
theorem guardedStop_eq_ok (front text : List Char) :
    guardedStop (front ++ text) (byteLength front) =
      .ok ((block? text).map fun block => byteLength front + byteLength block) := by
  rw [guardedStop, (Tells.eq (by decide)).any_getElem?, slice_to_end]
  cases text with
  | nil => rfl
  | cons c rest =>
    rw [block?, List.head?_cons, Option.any_some]
    split
    · next hbrace =>
      obtain rfl : c = braces.opener := beq_iff_eq.mp hbrace
      rw [closeAt_opener oneByte_braces rfl]
      cases enclosed braces none rest with
      | none => rfl
      | some read =>
        rw [Option.map_some, Option.map_some, Option.map_some, byteLength_cons, Nat.add_assoc]
        rfl
    · simp only [bind, Except.bind, findText_semicolon]
      split <;> rfl

/-- What is guarded behind a boundary is cut out without a fault, and it is told whether that
mentions `revert`. -/
theorem revertsBehind_eq_ok (front rest : List Char) :
    revertsBehind (front ++ rest) (byteLength front) =
      .ok ((guarded? rest).any (hasInfix "revert".toList)) := by
  have hcode : front ++ rest =
      (front ++ rest.takeWhile isAsciiBlank) ++ rest.dropWhile isAsciiBlank := by
    rw [List.append_assoc, List.takeWhile_append_dropWhile]
  rw [revertsBehind, skipBlanks_eq, hcode, guardedStop_eq_ok, any_guarded?]
  cases hblock : block? (rest.dropWhile isAsciiBlank) with
  | none => rfl
  | some block =>
    obtain ⟨after, hafter⟩ := eq_append_of_block?_eq_some hblock
    simp only [bind, Except.bind, Option.map_some, hafter, slice_append]
    rfl

/-- The next `if` of a text is found, and no guard starts before it. -/
theorem findText_if (before : Option Char) (here : Nat) (text : List Char) :
    (findText ['i', 'f'] here text = none ∧ ifRevertsFrom 0 before text = []) ∨
    ∃ passed rest, text = passed ++ 'i' :: 'f' :: rest ∧
      findText ['i', 'f'] here text = some (here + byteLength passed) ∧
      ifRevertsFrom 0 before text =
        ifRevertsFrom 0 (lastBefore before passed) ('i' :: 'f' :: rest) := by
  induction text generalizing before here with
  | nil => exact .inl ⟨rfl, rfl⟩
  | cons c rest ih =>
    rw [findText]
    by_cases hif : ['i', 'f'].isPrefixOf (c :: rest) = true
    · obtain ⟨tail, htail⟩ := List.isPrefixOf_iff_prefix.mp hif
      rw [if_pos hif]
      exact .inr ⟨[], tail, htail.symm, rfl, by rw [← htail]; rfl⟩
    · have hnone : ifAt? (c :: rest) = none :=
        ifAt?_eq_none_of_no_if fun h => hif (List.isPrefixOf_iff_prefix.mpr h)
      rw [if_neg hif, ifRevertsFrom_cons_of_eq_none hnone]
      rcases ih (some c) (here + c.utf8Size) with hend | ⟨passed, after, rfl, hfound, hsame⟩
      · exact .inl hend
      · refine .inr ⟨c :: passed, after, rfl, ?_, ?_⟩
        · rw [hfound, byteLength_cons, Nat.add_assoc]
        · rw [hsame, lastBefore_cons]

/-- Where an `if` is part of a name or has no condition, the search goes on behind it. -/
theorem ifRevertsFrom_if {before : Option Char} {rest : List Char}
    (h : before.any isNamePart = true ∨ ifAt? ('i' :: 'f' :: rest) = none) :
    ifRevertsFrom 0 before ('i' :: 'f' :: rest) = ifRevertsFrom 0 (some 'f') rest := by
  have hlast : ifAt? ('f' :: rest) = none := ifAt?_eq_none_of_no_if fun hstart => by
    simpa using (List.cons_prefix_cons.mp hstart).1
  rw [← ifRevertsFrom_cons_of_eq_none hlast (some 'i')]
  rcases h with hname | hnone
  · rw [ifRevertsFrom, if_pos hname]
  · exact ifRevertsFrom_cons_of_eq_none hnone before

/-- Behind the parentheses of a condition its guard is read and the condition cut out, without a
fault. -/
theorem ifGuard_condition {here : Nat} {front inside inner after : List Char}
    (hread : enclosed parens none inside = some (inner, after))
    (hparens : ifParens (front ++ parens.opener :: inside) here =
      .ok (some (byteLength front, byteLength front + 1 + byteLength inner))) :
    ifGuard (front ++ parens.opener :: inside) here =
      .ok ⟨byteLength (front ++ parens.opener :: (inner ++ [parens.closer])),
        if (guarded? after).any (hasInfix "revert".toList) then some (collapseChars inner)
        else none⟩ := by
  have hcode : front ++ parens.opener :: inside =
      (front ++ parens.opener :: (inner ++ [parens.closer])) ++ after := by
    rw [eq_append_of_enclosedAt_eq_some hread]
    simp
  have hclosed : byteLength front + 1 + byteLength inner + 1 =
      byteLength (front ++ parens.opener :: (inner ++ [parens.closer])) := by
    simp only [byteLength_append, byteLength_cons, byteLength_nil,
      utf8Size_of_lt oneByte_parens.opener, utf8Size_of_lt oneByte_parens.closer]
    omega
  have hreverts : revertsBehind (front ++ parens.opener :: inside)
      (byteLength front + 1 + byteLength inner + 1) =
        .ok ((guarded? after).any (hasInfix "revert".toList)) := by
    rw [hclosed, hcode]
    exact revertsBehind_eq_ok ..
  rw [ifGuard, hparens]
  simp only [bind, Except.bind, hreverts]
  rw [hclosed, slice_enclosed oneByte_parens hread]
  split <;> rfl

/-- A round that has found an `if` at a boundary ends without a fault, at a later boundary. The
conditions that the walk over the characters finds are the one that the round finds, if any, and
those from that boundary on. -/
theorem ifGuard_eq_ok (front rest : List Char) :
    ∃ passed after found, 'i' :: 'f' :: rest = passed ++ after ∧ passed ≠ [] ∧
      ifGuard (front ++ 'i' :: 'f' :: rest) (byteLength front) =
        .ok ⟨byteLength (front ++ passed), found⟩ ∧
      ifRevertsFrom 0 front.getLast? ('i' :: 'f' :: rest) =
        found.toList ++ ifRevertsFrom 0 (front ++ passed).getLast? after := by
  have hifAt := ifAt?_if rest
  have hparens := ifParens_eq_ok front rest
  -- The word is passed alone if it is part of a name or has no condition.
  have halone : ifParens (front ++ 'i' :: 'f' :: rest) (byteLength front) = .ok none →
      (front.getLast?.any isNamePart = true ∨ ifAt? ('i' :: 'f' :: rest) = none) →
      ifGuard (front ++ 'i' :: 'f' :: rest) (byteLength front) =
        .ok ⟨byteLength (front ++ ['i', 'f']), none⟩ ∧
      ifRevertsFrom 0 front.getLast? ('i' :: 'f' :: rest) =
        [] ++ ifRevertsFrom 0 (front ++ ['i', 'f']).getLast? rest := by
    intro hnone hpassed
    rw [ifGuard, hnone, ifRevertsFrom_if hpassed, List.getLast?_append, byteLength_if]
    exact ⟨rfl, rfl⟩
  by_cases hname : (front.getLast?.any isNamePart || rest.head?.any isNamePart) = true
  · rw [if_pos hname] at hparens
    refine ⟨['i', 'f'], rest, none, rfl, List.cons_ne_nil _ _, halone hparens ?_⟩
    refine (Bool.or_eq_true_iff.mp hname).imp_right fun hafter => ?_
    rw [hifAt, if_pos hafter]
  · obtain ⟨hbefore, hafter⟩ := Bool.or_eq_false_iff.mp (Bool.eq_false_iff.mpr hname)
    rw [if_neg hname] at hparens
    rw [hafter, if_neg Bool.false_ne_true] at hifAt
    cases hread : condition? rest with
    | none =>
      rw [hread] at hifAt hparens
      exact ⟨['i', 'f'], rest, none, rfl, List.cons_ne_nil _ _, halone hparens (.inr hifAt)⟩
    | some read =>
      -- The round ends behind the closing parenthesis, which is no part of a name.
      obtain ⟨gap, inner, after⟩ := read
      rw [hread] at hifAt hparens
      obtain ⟨inside, rfl, hinside⟩ := condition?_eq_some hread
      have hcode : front ++ 'i' :: 'f' :: (gap ++ parens.opener :: inside) =
          (front ++ ['i', 'f'] ++ gap) ++ parens.opener :: inside := by simp
      have hfront : (front ++ ['i', 'f'] ++ gap) ++ parens.opener :: (inner ++ [parens.closer]) =
          front ++ 'i' :: 'f' :: (gap ++ parens.opener :: (inner ++ [parens.closer])) := by simp
      rw [hcode, Option.map_some] at hparens
      have hguard := ifGuard_condition hinside hparens
      rw [hfront, ← hcode] at hguard
      refine ⟨_, after, _, ?_, List.cons_ne_nil _ _, hguard, ?_⟩
      · rw [eq_append_of_enclosedAt_eq_some hinside]
        simp
      · have hlast : (front ++ 'i' :: 'f' :: (gap ++ parens.opener ::
            (inner ++ [parens.closer]))).getLast? = some parens.closer := by
          rw [← hfront, ← List.cons_append, ← List.append_assoc, List.getLast?_concat]
        rw [ifRevertsFrom_of_eq_some hifAt hbefore, hlast, ifRevertsFrom_of_not_name rfl,
          IfHead.reverts]
        dsimp only
        split <;> rfl

/-- A round from a boundary on ends without a fault. If there is an `if` left, it ends at a later
boundary. -/
theorem ifRound_eq_ok (front text : List Char) :
    (ifRound (front ++ text) (byteLength front) = .ok none ∧
      ifRevertsFrom 0 front.getLast? text = []) ∨
    ∃ passed rest found, text = passed ++ rest ∧ passed ≠ [] ∧
      ifRound (front ++ text) (byteLength front) =
        .ok (some ⟨byteLength (front ++ passed), found⟩) ∧
      ifRevertsFrom 0 front.getLast? text =
        found.toList ++ ifRevertsFrom 0 (front ++ passed).getLast? rest := by
  rw [ifRound, slice_to_end]
  simp only [bind, Except.bind]
  rcases findText_if front.getLast? (byteLength front) text with
    ⟨hnone, hempty⟩ | ⟨skipped, rest, rfl, hfound, hsame⟩
  · rw [hnone]
    exact .inl ⟨rfl, hempty⟩
  · obtain ⟨passed, after, found, hparts, hne, hguard, hlater⟩ :=
      ifGuard_eq_ok (front ++ skipped) rest
    refine .inr ⟨skipped ++ passed, after, found, ?_, by simp [hne], ?_, ?_⟩
    · rw [hparts, List.append_assoc]
    · rw [hfound]
      dsimp only
      rw [← byteLength_append, ← List.append_assoc, hguard, List.append_assoc]
      rfl
    · rw [hsame, ← List.append_assoc, ← hlater, List.getLast?_append]
      rfl

/-- A position moves on with the characters that are passed. -/
theorem byteLength_lt_append (front : List Char) {passed : List Char} (hne : passed ≠ []) :
    byteLength front < byteLength (front ++ passed) := by
  have := length_le_byteLength passed
  have := List.length_pos_iff.mpr hne
  rw [byteLength_append]
  omega

/-- The rounds end without a fault, with the conditions that the walk over the characters finds. -/
theorem ifRounds_eq_ok (front text : List Char) :
    ifRounds (front ++ text) (byteLength front) = .ok (ifRevertsFrom 0 front.getLast? text) := by
  -- Each round passes at least one character, so the induction is on how many are left.
  induction hlength : text.length using Nat.strong_induction_on generalizing front text with
  | _ length ih =>
    rw [ifRounds]
    rcases ifRound_eq_ok front text with
      ⟨hround, hempty⟩ | ⟨passed, rest, found, rfl, hne, hround, hlater⟩
    · rw [hround, hempty]
      rfl
    · have hshorter : rest.length < length := by
        have := List.length_pos_iff.mpr hne
        rw [← hlength, List.length_append]
        omega
      have hmoves := byteLength_lt_append front hne
      have hwithin : byteLength (front ++ passed) ≤ byteLength (front ++ (passed ++ rest)) := by
        rw [← List.append_assoc, byteLength_append (front ++ passed)]
        exact Nat.le_add_right ..
      have hrest := ih rest.length hshorter (front ++ passed) rest rfl
      rw [List.append_assoc] at hrest
      simp only [hround, bind, Except.bind, if_pos (And.intro hmoves hwithin), hrest, hlater]
      rfl

end TokenAudit.ByteScan
