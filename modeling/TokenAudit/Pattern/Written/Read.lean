import TokenAudit.Pattern.Written.Escape

/-!
# Reading patterns

`Tree.read?` reads a whole text. What asks to look around, or back at a group, is refused, and so is a
group name that is used twice.
-/

namespace TokenAudit.Written

open Unicode

/-! ## Repetitions -/

/-- The digits of a number; `comment` says that the text starts inside a comment. -/
def readNumberFrom (verbose : Bool) : (comment : Bool) → List Char → List Char × List Char
  | _, [] => ([], [])
  | true, c :: rest => readNumberFrom verbose (c != '\n') rest
  | false, c :: rest =>
    if isAsciiDigit c then
      let (digits, after) := readNumberFrom verbose false rest
      (c :: digits, after)
    else if verbose && c == '#' then readNumberFrom verbose true rest
    else if verbose && isBlank c then readNumberFrom verbose false rest
    else ([], c :: rest)

/-- A number of rounds, with blanks around it. -/
def readNumber? (verbose : Bool) (text : List Char) : Option (Nat × List Char) :=
  let (digits, rest) := readNumberFrom verbose false (text.dropWhile isBlank)
  let value := digits.foldl (fun value c => 10 * value + (c.toNat - 0x30)) 0
  if digits.isEmpty || 0xFFFFFFFF < value then none else some (value, rest.dropWhile isBlank)

/-- A count, after its opening brace. -/
def readCount? (verbose : Bool) (text : List Char) : Option (Count × List Char) := do
  let (least, rest) ← readNumber? verbose (skipSpace verbose text)
  match rest with
  | '\x7d' :: after => some (⟨least, some least⟩, after)
  | ',' :: rest =>
    match skipSpace verbose rest with
    | '\x7d' :: after => some (⟨least, none⟩, after)
    | rest =>
      let (most, rest) ← readNumber? verbose rest
      match rest with
      | '\x7d' :: after => if least ≤ most then some (⟨least, some most⟩, after) else none
      | _ => none
  | _ => none

/-- A question mark right after a repetition makes it prefer fewer rounds. -/
def readLazy : List Char → Bool × List Char
  | '?' :: rest => (false, rest)
  | rest => (true, rest)

/-! ## Groups -/

/-- The letters of a group's flags, up to the colon or the parenthesis. A letter may stand once, and a
hyphen, which switches off what follows, must have something after it. -/
def readFlags? (flags : Flags) (value : Bool) (seen : List Char) :
    List Char → Option (Flags × Char × List Char)
  | [] => none
  | c :: rest =>
    if c == ':' || c == ')' then
      if seen.head? == some '-' then none else some (flags, c, rest)
    else if seen.contains c then none
    else if c == '-' then readFlags? flags false (c :: seen) rest
    else
      match flags.set? c value with
      | none => none
      | some flags => readFlags? flags value (c :: seen) rest

/-- Characters that a group name can start with. -/
def isGroupNameStart (c : Char) : Bool :=
  c == '_' || isAlphabetic c

/-- Characters that a group name can go on with. -/
def isGroupNamePart (c : Char) : Bool :=
  c == '_' || c == '.' || c == '[' || c == ']' || isAlphanumeric c

/-- A group name, after its opening angle bracket. -/
def readGroupName? (text : List Char) : Option (List Char × List Char) :=
  let name := text.takeWhile isGroupNamePart
  if name.head?.any isGroupNameStart then
    match text.dropWhile isGroupNamePart with
    | '>' :: after => some (name, after)
    | _ => none
  else none

/-- What stands after an opening parenthesis. -/
inductive GroupOpen
  /-- A group that is remembered, and its name. -/
  | numbered (name : Option (List Char)) (rest : List Char)
  /-- A group that has only flags of its own. -/
  | plain (flags : Flags) (rest : List Char)
  /-- New flags for the rest of the surrounding group. -/
  | flags (flags : Flags) (rest : List Char)

/-- What stands after an opening parenthesis. -/
def readGroupOpen? (flags : Flags) : List Char → Option GroupOpen
  | '?' :: '=' :: _ | '?' :: '!' :: _ => none
  | '?' :: '<' :: '=' :: _ | '?' :: '<' :: '!' :: _ => none
  | '?' :: 'P' :: '<' :: rest =>
    (readGroupName? rest).map fun (name, after) => .numbered (some name) after
  | '?' :: '<' :: rest =>
    (readGroupName? rest).map fun (name, after) => .numbered (some name) after
  | '?' :: ')' :: _ => none
  | '?' :: rest =>
    (readFlags? flags true [] rest).map fun (flags, last, after) =>
      if last == ':' then .plain flags after else .flags flags after
  | rest => some (.numbered none rest)

/-- What has been read of a group. -/
structure GroupState where
  /-- The flags in force. -/
  flags : Flags
  /-- The finished branches, latest first. -/
  branches : List Tree
  /-- The parts of the current branch, latest first. -/
  parts : List Tree
  /-- How many groups are remembered. -/
  groups : Nat
  /-- The group names in use. -/
  names : List (List Char)

namespace GroupState

/-- The start of a pattern. -/
def start : GroupState :=
  ⟨.start, [], [], 0, []⟩

/-- The group read so far. -/
def close (state : GroupState) : Tree :=
  .ofBranches (state.branches.reverse ++ [.ofParts state.parts.reverse])

/-- One more part. -/
def push (state : GroupState) (part : Tree) : GroupState :=
  { state with parts := part :: state.parts }

/-- The end of a branch. -/
def nextBranch (state : GroupState) : GroupState :=
  { state with branches := .ofParts state.parts.reverse :: state.branches, parts := [] }

/-- New flags from here on. -/
def withFlags (state : GroupState) (flags : Flags) : GroupState :=
  { state.push .empty with flags := flags }

/-- The inside of a group with a number. -/
def enter? (state : GroupState) (name : Option (List Char)) : Option GroupState :=
  if name.any state.names.contains then none
  else some ⟨state.flags, [], [], state.groups + 1, name.toList ++ state.names⟩

/-- The group with its inside read. -/
def leave (state inner : GroupState) (index : Option Nat) : GroupState :=
  { state.push (.group index inner.close) with groups := inner.groups, names := inner.names }

/-- The last part repeated; there must be one. -/
def repeatLast? (state : GroupState) (count : Count) (greedy : Bool) : Option GroupState :=
  match state.parts with
  | [] | .empty :: _ => none
  | part :: rest =>
    some { state with parts := .repeated (greedy != state.flags.swapGreed) count part :: rest }

/-- What an escape stands for, under the flags in force. -/
def pushEscaped (state : GroupState) : Escaped → GroupState
  | .literal char => state.push (.literal state.flags char)
  | .letter negated kind => state.push (.letter state.flags negated kind)
  | .property negated query => state.push (.property state.flags negated query)
  | .anchor anchor => state.push (.anchor state.flags anchor)

end GroupState

/-- The rest of a group, up to its closing parenthesis, which stays, or to the end of the text. Every
step reads a character, so the length of the text is enough fuel. -/
def readGroup? : Nat → GroupState → List Char → Option (GroupState × List Char)
  | 0, _, _ => none
  | fuel + 1, state, text =>
    let verbose := state.flags.verbose
    let repeatBy (count : Count) (rest : List Char) :=
      let (greedy, after) := readLazy rest
      match state.repeatLast? count greedy with
      | none => none
      | some state => readGroup? fuel state after
    let nested (inner : GroupState) (index : Option Nat) (rest : List Char) :=
      match readGroup? fuel inner rest with
      | some (inner, ')' :: after) => readGroup? fuel (state.leave inner index) after
      | _ => none
    match skipSpace verbose text with
    | [] => some (state, [])
    | ')' :: rest => some (state, ')' :: rest)
    | '|' :: rest => readGroup? fuel state.nextBranch rest
    | '*' :: rest => repeatBy ⟨0, none⟩ rest
    | '+' :: rest => repeatBy ⟨1, none⟩ rest
    | '?' :: rest => repeatBy ⟨0, some 1⟩ rest
    | '\x7b' :: rest =>
      match readCount? verbose rest with
      | none => none
      | some (count, after) => repeatBy count (skipSpace verbose after)
    | '(' :: rest =>
      match readGroupOpen? state.flags (skipSpace verbose rest) with
      | none => none
      | some (.flags flags after) => readGroup? fuel (state.withFlags flags) after
      | some (.plain flags after) => nested ⟨flags, [], [], state.groups, state.names⟩ none after
      | some (.numbered name after) =>
        match state.enter? name with
        | none => none
        | some inner => nested inner (some inner.groups) after
    | '[' :: rest =>
      match readClass? verbose rest with
      | none => none
      | some (negated, inside, after) =>
        readGroup? fuel (state.push (.bracket state.flags negated inside)) after
    | '.' :: rest => readGroup? fuel (state.push (.dot state.flags)) rest
    | '^' :: rest => readGroup? fuel (state.push (.anchor state.flags .lineStart)) rest
    | '$' :: rest => readGroup? fuel (state.push (.anchor state.flags .lineEnd)) rest
    | '\\' :: rest =>
      match readEscape? verbose rest with
      | none => none
      | some (escaped, after) => readGroup? fuel (state.pushEscaped escaped) after
    | c :: rest => readGroup? fuel (state.push (.literal state.flags ⟨c, false⟩)) rest

/-- The tree of a whole text. -/
def Tree.read? (text : List Char) : Option Tree :=
  match readGroup? (text.length + 1) .start text with
  | some (state, []) => some state.close
  | _ => none

end TokenAudit.Written
