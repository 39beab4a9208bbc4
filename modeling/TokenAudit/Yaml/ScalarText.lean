import TokenAudit.Yaml.Token

/-!
# The text of YAML scalars

Readers for the four ways to write a scalar. Line breaks fold: one break between two lines becomes a
space, and of several the first is dropped.
-/

namespace TokenAudit.Yaml

open Unicode

/-- What stands between two words of a scalar. -/
structure Gap where
  /-- Whether a line break has been passed. -/
  broken : Bool
  /-- Blanks before the first break, latest first. -/
  blanks : List Char
  /-- The first break. -/
  firstBreak : List Char
  /-- The breaks after the first. -/
  laterBreaks : List Char

/-- Nothing. -/
def Gap.empty : Gap :=
  ⟨false, [], [], []⟩

/-- What a gap becomes in the text of the scalar. -/
def Gap.fold (gap : Gap) : List Char :=
  if gap.broken then
    if gap.firstBreak.head? == some '\n' then
      if gap.laterBreaks.isEmpty then [' '] else gap.laterBreaks
    else gap.firstBreak ++ gap.laterBreaks
  else gap.blanks.reverse

/-- Passes blanks and line breaks. A tab before column `indent` of a continued line is an error. -/
def Gap.read? (indent : Int) : Nat → Gap → Place → Option (Gap × Place)
  | 0, gap, place => some (gap, place)
  | fuel + 1, gap, place =>
    match place.next? with
    | none => some (gap, place)
    | some c =>
      if isGap c then
        if gap.broken && (place.column : Int) < indent && c == '\t' then none
        else
          let gap := if gap.broken then gap else { gap with blanks := c :: gap.blanks }
          read? indent fuel gap (place.skip 1)
      else if isBreak c then
        let (kept, after) := place.takeBreak
        let gap :=
          if gap.broken then { gap with laterBreaks := gap.laterBreaks ++ kept }
          else { gap with broken := true, blanks := [], firstBreak := kept }
        read? indent fuel gap after
      else some (gap, place)

/-! ## Plain scalars -/

/-- Characters that end a plain scalar inside a flow collection. -/
def isFlowIndicator (c : Char) : Bool :=
  c == ',' || c == '[' || c == ']' || c == '\x7b' || c == '\x7d'

/-- The characters of a plain scalar up to the next blank or end, latest first on `text`. A colon
before a flow indicator is an error. -/
def readPlainWord? (inFlow : Bool) : Nat → List Char → Place → Option (List Char × Place)
  | 0, text, place => some (text, place)
  | fuel + 1, text, place =>
    match place.next? with
    | none => some (text, place)
    | some c =>
      if isGapOrEnd (some c) then some (text, place)
      else if inFlow && c == ':' && (place.at? 1).any fun d => d == '?' || isFlowIndicator d then none
      else if (c == ':' && isGapOrEnd (place.at? 1)) || (inFlow && isFlowIndicator c) then
        some (text, place)
      else readPlainWord? inFlow fuel (c :: text) (place.skip 1)

/-- The rest of a plain scalar: its text latest first, the gap after its last word, and the place
after the gap. -/
def readPlainFrom? (inFlow : Bool) (indent : Int) :
    Nat → List Char → Gap → Place → Option (List Char × Gap × Place)
  | 0, text, gap, place => some (text, gap, place)
  | fuel + 1, text, gap, place =>
    if place.atDocumentMark || place.next? == some '#' then some (text, gap, place)
    else do
      let (word, after) ← readPlainWord? inFlow place.rest.length [] place
      if word.isEmpty then return (text, gap, after)
      let text := word ++ gap.fold.reverse ++ text
      let (gap, next) ← Gap.read? indent after.rest.length Gap.empty after
      if next.index == after.index then return (text, Gap.empty, after)
      if !inFlow && (next.column : Int) < indent then return (text, gap, next)
      readPlainFrom? inFlow indent fuel text gap next

/-- A plain scalar, whether a line break follows it, and the place after it. -/
def readPlain? (inFlow : Bool) (indent : Int) (place : Place) : Option (String × Bool × Place) := do
  let (text, gap, after) ← readPlainFrom? inFlow indent (place.rest.length + 1) [] Gap.empty place
  return (String.ofList text.reverse, gap.broken, after)

/-! ## Quoted scalars -/

/-- The character of a code point written with `count` digits. -/
def readCodePoint? (count : Nat) (place : Place) : Option (Char × Place) :=
  let digits := place.rest.take count
  let code := hexNumber digits
  if digits.length == count && digits.all isHexDigit &&
      (code < 0xD800 || (0xDFFF < code && code ≤ 0x10FFFF)) then
    some (Char.ofNat code, place.skip count)
  else none

/-- The character that an escape stands for, after its backslash. -/
def readEscape? (place : Place) : Option (Char × Place) := do
  let c ← place.next?
  let after := place.skip 1
  match c with
  | '0' => some (Char.ofNat 0, after)
  | 'a' => some ('\x07', after)
  | 'b' => some ('\x08', after)
  | 't' | '\t' => some ('\t', after)
  | 'n' => some ('\n', after)
  | 'v' => some ('\x0b', after)
  | 'f' => some ('\x0c', after)
  | 'r' => some ('\r', after)
  | 'e' => some ('\x1b', after)
  | ' ' => some (' ', after)
  | '"' => some ('"', after)
  | '/' => some ('/', after)
  | '\\' => some ('\\', after)
  | 'N' => some (Char.ofNat 0x85, after)
  | '_' => some (Char.ofNat 0xA0, after)
  | 'L' => some (Char.ofNat 0x2028, after)
  | 'P' => some (Char.ofNat 0x2029, after)
  | 'x' => readCodePoint? 2 after
  | 'u' => readCodePoint? 4 after
  | 'U' => readCodePoint? 8 after
  | _ => none

/-- The characters of a quoted scalar up to the next blank or its closing quote, latest first on
`text`. The flag tells whether an escaped line break was passed. -/
def readQuotedWord? (quote : Char) : Nat → List Char → Place → Option (List Char × Bool × Place)
  | 0, text, place => some (text, false, place)
  | fuel + 1, text, place =>
    match place.next? with
    | none => some (text, false, place)
    | some c =>
      if isGapOrEnd (some c) then some (text, false, place)
      else if c == quote then
        if quote == '\'' && place.at? 1 == some '\'' then
          readQuotedWord? quote fuel ('\'' :: text) (place.skip 2)
        else some (text, false, place)
      else if quote == '"' && c == '\\' then
        if (place.at? 1).any isBreak then some (text, true, (place.skip 1).takeBreak.2)
        else
          match readEscape? (place.skip 1) with
          | none => none
          | some (escaped, after) => readQuotedWord? quote fuel (escaped :: text) after
      else readQuotedWord? quote fuel (c :: text) (place.skip 1)

/-- The rest of a quoted scalar: its text latest first, and the place after the closing quote. A
document mark inside is an error. -/
def readQuotedFrom? (quote : Char) : Nat → List Char → Place → Option (List Char × Place)
  | 0, _, _ => none
  | fuel + 1, text, place =>
    if place.atDocumentMark then none
    else do
      let (text, escapedBreak, after) ← readQuotedWord? quote place.rest.length text place
      let c ← after.next?
      if c == quote then return (text, after.skip 1)
      let start : Gap := { Gap.empty with broken := escapedBreak }
      let (gap, next) ← Gap.read? (-1) after.rest.length start after
      readQuotedFrom? quote fuel (gap.fold.reverse ++ text) next

/-- A quoted scalar, after its opening quote, and the place after it. -/
def readQuoted? (quote : Char) (place : Place) : Option (String × Place) := do
  let (text, after) ← readQuotedFrom? quote (place.rest.length + 1) [] place
  return (String.ofList text.reverse, after)

/-! ## Block scalars -/

/-- What becomes of the line breaks at the end of a block scalar. -/
inductive Chomp
  /-- All are dropped. -/
  | strip
  /-- One is kept. -/
  | clip
  /-- All are kept. -/
  | keep
  deriving Repr, BEq, DecidableEq

/-- The header of a block scalar. -/
structure BlockHeader where
  /-- What becomes of the final breaks. -/
  chomp : Chomp
  /-- The indentation, if it is given. -/
  indent : Option Nat

/-- A chomping sign. -/
def chomp? : Char → Option Chomp
  | '+' => some .keep
  | '-' => some .strip
  | _ => none

/-- The header of a block scalar, after its indicator; zero is no indentation. -/
def readBlockHeader? (place : Place) : Option (BlockHeader × Place) :=
  let digit? (p : Place) : Option (Option Nat × Place) :=
    match p.next? with
    | some c =>
      if isAsciiDigit c then
        if c == '0' then none else some (some (c.toNat - 0x30), p.skip 1)
      else some (none, p)
    | none => some (none, p)
  match place.next?.bind chomp? with
  | some chomp => (digit? (place.skip 1)).map fun (indent, after) => (⟨chomp, indent⟩, after)
  | none =>
    match digit? place with
    | none => none
    | some (none, after) => some (⟨.clip, none⟩, after)
    | some (indent, after) =>
      match after.next?.bind chomp? with
      | some chomp => some (⟨chomp, indent⟩, after.skip 1)
      | none => some (⟨.clip, indent⟩, after)

/-- Passes indentation and empty lines. `indent` is zero while the indentation is not known; then the
deepest indentation passed is found. A tab in the indentation is an error. -/
def readBlockBreaks? (indent : Nat) :
    Nat → Nat → List Char → Place → Option (Nat × List Char × Place)
  | 0, deepest, breaks, place => some (deepest, breaks, place)
  | fuel + 1, deepest, breaks, place =>
    let wanted (p : Place) := indent == 0 || p.column < indent
    let spaces := (place.rest.takeWhile (· == ' ')).length
    let spaces := if indent == 0 then spaces else min spaces (indent - place.column)
    let place := place.skip spaces
    let deepest := max deepest place.column
    if wanted place && place.next? == some '\t' then none
    else if place.next?.any isBreak then
      let (kept, after) := place.takeBreak
      readBlockBreaks? indent fuel deepest (breaks ++ kept) after
    else some (deepest, breaks, place)

/-- The lines of a block scalar, latest first on `text`, then the last break and the breaks after
it. -/
def readBlockLines? (style : Style) (indent : Nat) :
    Nat → List Char → List Char → Bool → List Char → Place →
    Option (List Char × List Char × List Char × Place)
  | 0, text, lastBreak, _, breaks, place => some (text, lastBreak, breaks, place)
  | fuel + 1, text, lastBreak, afterBlank, breaks, place =>
    if place.column != indent || place.rest.isEmpty then some (text, lastBreak, breaks, place)
    else do
      let startsBlank := place.next?.any isGap
      let joint :=
        if style == .folded && lastBreak.head? == some '\n' && !afterBlank && !startsBlank then
          if breaks.isEmpty then [' '] else []
        else lastBreak
      let (line, ended) := place.takeWhile (fun c => !isBreak c)
      let text := line.reverse ++ (joint ++ breaks).reverse ++ text
      let (kept, next) := ended.takeBreak
      let (_, breaks, next) ← readBlockBreaks? indent (next.rest.length + 1) 0 [] next
      readBlockLines? style indent fuel text kept startsBlank breaks next

/-- A block scalar, after its indicator, and the place after it. `parent` is the indentation of the
block that holds it. -/
def readBlock? (style : Style) (parent : Int) (place : Place) : Option (String × Place) := do
  let (header, after) ← readBlockHeader? place
  let (_, after) := after.takeWhile isGap
  let after :=
    if after.next? == some '#' then (after.takeWhile (fun c => !isBreak c)).2 else after
  if !isBreakOrEnd after.next? then none
  let (_, start) := after.takeBreak
  let given := match header.indent with
    | some n => if 0 ≤ parent then parent.toNat + n else n
    | none => 0
  let (deepest, breaks, start) ← readBlockBreaks? given (start.rest.length + 1) 0 [] start
  let indent := if given == 0 then max deepest (max (parent + 1).toNat 1) else given
  let (text, lastBreak, breaks, last) ←
    readBlockLines? style indent (start.rest.length + 1) [] [] false breaks start
  let ending := match header.chomp with
    | .strip => []
    | .clip => lastBreak
    | .keep => lastBreak ++ breaks
  return (String.ofList (text.reverse ++ ending), last)

end TokenAudit.Yaml
