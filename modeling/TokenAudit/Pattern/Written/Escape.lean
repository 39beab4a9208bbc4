import TokenAudit.Pattern.Written.Tree

/-!
# Reading escapes and classes

In a verbose pattern blanks and comments may stand between most characters, even inside an escape. A
reader gives what it has read and the text after it, or nothing where the text is refused.
-/

namespace TokenAudit.Written

open Unicode

/-! ## Blanks and comments -/

/-- The text after blanks and comments; `comment` says that the text starts inside a comment. -/
def skipSpaceFrom : (comment : Bool) → List Char → List Char
  | _, [] => []
  | true, c :: rest => skipSpaceFrom (c != '\n') rest
  | false, c :: rest =>
    if c == '#' then skipSpaceFrom true rest
    else if isBlank c then skipSpaceFrom false rest
    else c :: rest

/-- The text after the blanks and comments that a verbose pattern may hold. -/
def skipSpace (verbose : Bool) (text : List Char) : List Char :=
  if verbose then skipSpaceFrom false text else text

/-- The first character that is no blank, after a hash sign or not. -/
def afterSpace? : (comment : Bool) → List Char → Option Char
  | _, [] => none
  | comment, c :: rest =>
    if isBlank c then afterSpace? comment rest
    else if !comment && c == '#' then afterSpace? true rest
    else some c

/-- The character that is taken to come next in a verbose pattern. A comment does not end at the end of
its line here, and where only blanks follow the first of them is taken. -/
def peekSpace (verbose : Bool) (text : List Char) : Option Char :=
  if verbose then (afterSpace? false text).or text.head? else text.head?

/-- The characters up to a closing brace, without blanks and comments in a verbose pattern. -/
def readBraced? (verbose : Bool) : (comment : Bool) → List Char → Option (List Char × List Char)
  | _, [] => none
  | true, c :: rest => readBraced? verbose (c != '\n') rest
  | false, c :: rest =>
    if verbose && c == '#' then readBraced? verbose true rest
    else if verbose && isBlank c then readBraced? verbose false rest
    else if c == '\x7d' then some ([], rest)
    else (readBraced? verbose false rest).map fun (inside, after) => (c :: inside, after)

/-! ## Escapes -/

/-- What an escape stands for. -/
inductive Escaped
  /-- A character. -/
  | literal (char : Literal)
  /-- A class with a letter. -/
  | letter (negated : Bool) (kind : LetterClass)
  /-- The characters with a property. -/
  | property (negated : Bool) (query : Query)
  /-- A condition on the place. -/
  | anchor (anchor : Anchor)
  deriving Repr, BEq, DecidableEq

/-- Characters that have a meaning of their own in a pattern. -/
def metaChars : List Char :=
  ['\\', '.', '+', '*', '?', '(', ')', '|', '[', ']', '\x7b', '\x7d', '^', '$', '#', '&', '-', '~']

/-- Whether a backslash before the character only takes away its meaning. -/
def isEscapable (c : Char) : Bool :=
  c.toNat < 0x80 && !isAsciiLetter c && !isAsciiDigit c && c != '<' && c != '>'

/-- The character with the code point that hexadecimal digits write. -/
def charOfHex? (digits : List Char) : Option Char :=
  let code := hexNumber digits
  if digits.isEmpty || !digits.all isHexDigit then none
  else if code < 0xD800 || (0xDFFF < code && code < 0x110000) then some (Char.ofNat code)
  else none

/-- A number of hexadecimal digits. -/
def readDigits? (verbose : Bool) : Nat → List Char → Option (List Char × List Char)
  | 0, text => some ([], text)
  | _ + 1, [] => none
  | n + 1, c :: rest =>
    if isHexDigit c then
      (readDigits? verbose n (skipSpace verbose rest)).map fun (digits, after) => (c :: digits, after)
    else none

/-- A code point written with `count` digits, or with digits in braces. -/
def readCode? (verbose : Bool) (count : Nat) (text : List Char) : Option (Literal × List Char) :=
  match skipSpace verbose text with
  | '\x7b' :: rest => do
    let (digits, after) ← readBraced? verbose false rest
    let c ← charOfHex? digits
    some (⟨c, false⟩, after)
  | text => do
    let (digits, after) ← readDigits? verbose count text
    let c ← charOfHex? digits
    some (⟨c, count == 2⟩, after)

/-- The text before and after the first place of a piece. -/
def splitAt? (piece : List Char) : List Char → Option (List Char × List Char)
  | [] => if piece.isEmpty then some ([], []) else none
  | c :: rest =>
    if piece.isPrefixOf (c :: rest) then some ([], (c :: rest).drop piece.length)
    else (splitAt? piece rest).map fun (before, after) => (c :: before, after)

/-- What the text in braces asks for, and whether it asks for the opposite. -/
def queryOf (inside : List Char) : Bool × Query :=
  match splitAt? ['!', '='] inside with
  | some (property, value) => (true, .valued property value)
  | none =>
    match (splitAt? [':'] inside).orElse fun _ => splitAt? ['='] inside with
    | some (property, value) => (false, .valued property value)
    | none => (false, .named inside)

/-- A property, after its letter. -/
def readProperty? (verbose negated : Bool) (text : List Char) : Option (Escaped × List Char) :=
  match skipSpace verbose text with
  | [] | '\\' :: _ => none
  | '\x7b' :: rest =>
    (readBraced? verbose false rest).map fun (inside, after) =>
      let (opposite, query) := queryOf inside
      (.property (negated != opposite) query, after)
  | c :: rest => some (.property negated (.named [c]), rest)

/-- The condition on a word that a name in braces writes. -/
def wordAnchor? (name : List Char) : Option Anchor :=
  match String.ofList name with
  | "start" => some .wordStart
  | "end" => some .wordEnd
  | "start-half" => some .wordStartHalf
  | "end-half" => some .wordEndHalf
  | _ => none

/-- The condition on a word after its letter: one with a name in braces, or the plain one. Braces that do
not start with a letter belong to a repetition. -/
def readWordAnchor? (verbose : Bool) (text : List Char) : Option (Anchor × List Char) :=
  match text with
  | '\x7b' :: rest =>
    match skipSpace verbose rest with
    | [] => none
    | c :: _ =>
      if isAsciiLetter c || c == '-' then do
        let (name, after) ← readBraced? verbose false rest
        let anchor ← wordAnchor? name
        some (anchor, after)
      else some (.word, text)
  | _ => some (.word, text)

/-- What stands after a backslash. -/
def readEscape? (verbose : Bool) : List Char → Option (Escaped × List Char)
  | [] => none
  | c :: rest =>
    let literal (char : Char) := some (Escaped.literal ⟨char, false⟩, rest)
    let anchor (anchor : Anchor) := some (Escaped.anchor anchor, rest)
    let code (count : Nat) :=
      (readCode? verbose count rest).map fun (char, after) => (Escaped.literal char, after)
    if isEscapable c then literal c
    else
      match c with
      | 'd' => some (.letter false .digit, rest)
      | 's' => some (.letter false .blank, rest)
      | 'w' => some (.letter false .word, rest)
      | 'D' => some (.letter true .digit, rest)
      | 'S' => some (.letter true .blank, rest)
      | 'W' => some (.letter true .word, rest)
      | 'p' => readProperty? verbose false rest
      | 'P' => readProperty? verbose true rest
      | 'x' => code 2
      | 'u' => code 4
      | 'U' => code 8
      | 'a' => literal '\x07'
      | 'f' => literal '\x0c'
      | 't' => literal '\t'
      | 'n' => literal '\n'
      | 'r' => literal '\r'
      | 'v' => literal '\x0b'
      | 'A' => anchor .textStart
      | 'z' => anchor .textEnd
      | 'B' => anchor .notWord
      | '<' => anchor .wordStart
      | '>' => anchor .wordEnd
      | 'b' => (readWordAnchor? verbose rest).map fun (anchor, after) => (.anchor anchor, after)
      | _ => none

/-! ## Classes -/

/-- The ranges of ASCII that can be named inside a class. -/
def asciiRanges? (name : String) : Option (List (Nat × Nat)) :=
  match name with
  | "alnum" => some [(0x30, 0x39), (0x41, 0x5A), (0x61, 0x7A)]
  | "alpha" => some [(0x41, 0x5A), (0x61, 0x7A)]
  | "ascii" => some [(0x00, 0x7F)]
  | "blank" => some [(0x09, 0x09), (0x20, 0x20)]
  | "cntrl" => some [(0x00, 0x1F), (0x7F, 0x7F)]
  | "digit" => some [(0x30, 0x39)]
  | "graph" => some [(0x21, 0x7E)]
  | "lower" => some [(0x61, 0x7A)]
  | "print" => some [(0x20, 0x7E)]
  | "punct" => some [(0x21, 0x2F), (0x3A, 0x40), (0x5B, 0x60), (0x7B, 0x7E)]
  | "space" => some [(0x09, 0x0D), (0x20, 0x20)]
  | "upper" => some [(0x41, 0x5A)]
  | "word" => some [(0x30, 0x39), (0x41, 0x5A), (0x5F, 0x5F), (0x61, 0x7A)]
  | "xdigit" => some [(0x30, 0x39), (0x41, 0x46), (0x61, 0x66)]
  | _ => none

/-- A class of ASCII in brackets and colons, after its opening bracket. -/
def readAscii? (text : List Char) : Option (ClassTree × List Char) := do
  let rest ← match text with
    | ':' :: rest => some rest
    | _ => none
  let (negated, rest) := match rest with
    | '^' :: rest => (true, rest)
    | rest => (false, rest)
  let ranges ← asciiRanges? (String.ofList (rest.takeWhile (· != ':')))
  match rest.dropWhile (· != ':') with
  | ':' :: ']' :: after => some (.ascii negated (.ofRanges ranges), after)
  | _ => none

/-- One item of a class. -/
def readItem? (verbose : Bool) : List Char → Option (Escaped × List Char)
  | [] => none
  | '\\' :: rest => readEscape? verbose rest
  | c :: rest => some (.literal ⟨c, false⟩, rest)

/-- An item as a part of a class; a condition is none. -/
def Escaped.part? : Escaped → Option ClassTree
  | literal char => some (.literal char)
  | letter negated kind => some (.letter negated kind)
  | property negated query => some (.property negated query)
  | anchor _ => none

/-- An item or a range of a class. A hyphen before the closing bracket, or before another hyphen, makes
no range. -/
def readRange? (verbose : Bool) (text : List Char) : Option (ClassTree × List Char) := do
  let (first, after) ← readItem? verbose text
  let after := skipSpace verbose after
  match after with
  | '-' :: rest =>
    let next := peekSpace verbose rest
    if next == some ']' || next == some '-' then
      let part ← first.part?
      some (part, after)
    else
      let (last, after) ← readItem? verbose (skipSpace verbose rest)
      match first, last with
      | .literal a, .literal b => if a.char ≤ b.char then some (.range a b, after) else none
      | _, _ => none
  | _ =>
    let part ← first.part?
    some (part, after)

/-- The hyphens at the start of a class, which stand for themselves; `comment` says that the text starts
inside a comment. -/
def readHyphens (verbose : Bool) : (comment : Bool) → List Char → List ClassTree × List Char
  | _, [] => ([], [])
  | true, c :: rest => readHyphens verbose (c != '\n') rest
  | false, c :: rest =>
    if c == '-' then
      let (hyphens, after) := readHyphens verbose false rest
      (.literal ⟨'-', false⟩ :: hyphens, after)
    else if verbose && c == '#' then readHyphens verbose true rest
    else if verbose && isBlank c then readHyphens verbose false rest
    else ([], c :: rest)

/-- The start of a class, after its bracket: whether it is negated, the hyphens or the closing bracket
that stand for themselves, and the rest. -/
def readClassOpen (verbose : Bool) (text : List Char) : Bool × List ClassTree × List Char :=
  let (negated, rest) := match skipSpace verbose text with
    | '^' :: rest => (true, rest)
    | rest => (false, rest)
  let (hyphens, rest) := readHyphens verbose false rest
  match hyphens, rest with
  | [], ']' :: rest => (negated, [.literal ⟨']', false⟩], rest)
  | hyphens, rest => (negated, hyphens, rest)

/-- What has been read of a class. -/
structure ClassState where
  /-- The left side of an operation that awaits its right side. -/
  pending : Option (ClassTree × ClassOp)
  /-- The items since, latest first. -/
  items : List ClassTree

namespace ClassState

/-- The class read so far. -/
def close (state : ClassState) : ClassTree :=
  let right := ClassTree.ofItems state.items.reverse
  match state.pending with
  | none => right
  | some (left, op) => .combine op left right

/-- One more item. -/
def push (state : ClassState) (item : ClassTree) : ClassState :=
  { state with items := item :: state.items }

/-- The class read so far as the left side of an operation. -/
def operate (state : ClassState) (op : ClassOp) : ClassState :=
  ⟨some (state.close, op), []⟩

end ClassState

/-- The rest of a class, up to the bracket that closes it. Every step reads a character, so the length of
the text is enough fuel. -/
def readClassBody? (verbose : Bool) : Nat → ClassState → List Char → Option (ClassTree × List Char)
  | 0, _, _ => none
  | fuel + 1, state, text =>
    match skipSpace verbose text with
    | [] => none
    | ']' :: rest => some (state.close, rest)
    | '[' :: rest =>
      match readAscii? rest with
      | some (item, after) => readClassBody? verbose fuel (state.push item) after
      | none =>
        let (negated, items, body) := readClassOpen verbose rest
        match readClassBody? verbose fuel ⟨none, items.reverse⟩ body with
        | none => none
        | some (inside, after) => readClassBody? verbose fuel (state.push (.bracket negated inside)) after
    | '&' :: '&' :: rest => readClassBody? verbose fuel (state.operate .inter) rest
    | '-' :: '-' :: rest => readClassBody? verbose fuel (state.operate .diff) rest
    | '~' :: '~' :: rest => readClassBody? verbose fuel (state.operate .symm) rest
    | rest =>
      match readRange? verbose rest with
      | none => none
      | some (item, after) => readClassBody? verbose fuel (state.push item) after

/-- A class, after its bracket: whether it is negated, and what it holds. -/
def readClass? (verbose : Bool) (text : List Char) : Option (Bool × ClassTree × List Char) :=
  let (negated, items, body) := readClassOpen verbose text
  (readClassBody? verbose (text.length + 1) ⟨none, items.reverse⟩ body).map fun (inside, after) =>
    (negated, inside, after)

end TokenAudit.Written
