import TokenAudit.Yaml.ScalarText

/-!
# From YAML text to tokens

A key of a mapping carries no mark in front of it, so a token that may turn out to be a key is
remembered until a colon or the end of its line shows which it is; the tokens that open the mapping
and announce the key are then put in front of it.
-/

namespace TokenAudit.Yaml

open Unicode

/-- A token that may turn out to be a key. -/
structure Candidate where
  /-- Whether the token must be a key, because a mapping continues at its column. -/
  required : Bool
  /-- How many tokens come before it. -/
  position : Nat
  /-- Where it starts. -/
  line : Nat
  /-- The column where it starts. -/
  column : Nat
  /-- The number of bytes before it. -/
  index : Nat

/-- How far a text has been read. -/
structure Scan where
  /-- The place that is reached. -/
  place : Place
  /-- The tokens so far. -/
  tokens : Array Token
  /-- The column of the innermost block; `-1` outside all. -/
  indent : Int
  /-- The columns of the blocks around it, innermost first. -/
  outer : List Int
  /-- Whether a key may start here. -/
  keyAllowed : Bool
  /-- The possible key of each flow collection that is open, innermost first. -/
  flows : List (Option Candidate)
  /-- The possible key of the block. -/
  blockKey : Option Candidate

namespace Scan

/-- The start of a text. -/
def start (text : List Char) : Scan :=
  ⟨⟨text, 0, 0, 0⟩, #[], -1, [], true, [], none⟩

/-- Whether a flow collection is open. -/
def inFlow (s : Scan) : Bool :=
  !s.flows.isEmpty

/-- Adds a token at the end. -/
def emit (s : Scan) (token : Token) : Scan :=
  { s with tokens := s.tokens.push token }

/-- Adds a token in front of the token at a position. -/
def emitAt (s : Scan) (position : Nat) (token : Token) : Scan :=
  { s with tokens := s.tokens.extract 0 position ++ #[token] ++
      s.tokens.extract position s.tokens.size }

/-- Goes on `n` characters. -/
def skip (s : Scan) (n : Nat) : Scan :=
  { s with place := s.place.skip n }

/-- The possible key at the innermost level. -/
def candidate (s : Scan) : Option Candidate :=
  s.flows.head?.getD s.blockKey

/-- Sets the possible key at the innermost level. -/
def setCandidate (s : Scan) (candidate : Option Candidate) : Scan :=
  match s.flows with
  | [] => { s with blockKey := candidate }
  | _ :: outer => { s with flows := candidate :: outer }

/-- Gives up the possible key; an error if it had to be one. -/
def dropCandidate? (s : Scan) : Option Scan :=
  if s.candidate.any (·.required) then none else some (s.setCandidate none)

/-- Remembers the token that starts here as a possible key. -/
def saveCandidate? (s : Scan) : Option Scan :=
  if s.keyAllowed then
    let required := !s.inFlow && s.indent == s.place.column
    s.dropCandidate?.map (·.setCandidate
      (some ⟨required, s.tokens.size, s.place.line, s.place.column, s.place.index⟩))
  else some s

/-- Gives up the keys that are on an earlier line or more than 1024 bytes back. -/
def dropStale? (s : Scan) : Option Scan := do
  let check : Option Candidate → Option (Option Candidate)
    | none => some none
    | some key =>
      if key.line < s.place.line || key.index + 1024 < s.place.index then
        if key.required then none else some none
      else some (some key)
  return { s with flows := ← s.flows.mapM check, blockKey := ← check s.blockKey }

/-- Opens a block at a column that is deeper than the innermost one. -/
def openBlock (s : Scan) (column : Nat) (position : Option Nat) (token : Token) : Scan :=
  if !s.inFlow && s.indent < column then
    let s := { s with indent := column, outer := s.indent :: s.outer }
    match position with
    | some n => s.emitAt n token
    | none => s.emit token
  else s

/-- Closes the blocks deeper than a column. -/
def closeBlocksFrom (column : Int) (indent : Int) : List Int → Array Token → Int × List Int × Array Token
  | [], tokens => (indent, [], tokens)
  | next :: outer, tokens =>
    if column < indent then closeBlocksFrom column next outer (tokens.push .blockEnd)
    else (indent, next :: outer, tokens)

/-- Closes the blocks deeper than a column, outside flow collections. -/
def closeBlocks (s : Scan) (column : Int) : Scan :=
  if s.inFlow then s
  else
    let (indent, outer, tokens) := closeBlocksFrom column s.indent s.outer s.tokens
    { s with indent, outer, tokens }

/-- Passes blanks, comments and line breaks. Tabs are passed only where no block can start. A byte
order mark may start a line. -/
def passBlanks : Nat → Scan → Scan
  | 0, s => s
  | fuel + 1, s =>
    let s := if s.place.column == 0 && s.place.next? == some (Char.ofNat 0xFEFF) then s.skip 1 else s
    let tabs := s.inFlow || !s.keyAllowed
    let (_, place) := s.place.takeWhile (fun c => c == ' ' || (tabs && c == '\t'))
    let place :=
      if place.next? == some '#' then (place.takeWhile (fun c => !isBreak c)).2 else place
    if place.next?.any isBreak then
      passBlanks fuel { s with
        place := place.takeBreak.2
        keyAllowed := !s.inFlow || s.keyAllowed }
    else { s with place }

/-! ## Names, tags and directives -/

/-- The name of an anchor or alias, after its sign. -/
def readAnchor? (place : Place) : Option (String × Place) :=
  let (name, after) := place.takeWhile isNameChar
  let ends := isGapOrEnd after.next? ||
    after.next?.any fun c => c ∈ ['?', ':', ',', ']', '\x7d', '%', '@', '\x60']
  if name.isEmpty || !ends then none else some (String.ofList name, after)

/-- A byte written as a percent sign and two digits. -/
def readOctet? (place : Place) : Option (Nat × Place) :=
  match place.rest with
  | '%' :: a :: b :: _ =>
    if isHexDigit a && isHexDigit b then some (hexNumber [a, b], place.skip 3) else none
  | _ => none

/-- Written bytes that continue a character. -/
def readContinuation? : Nat → List Char → Place → Option (List Char × Place)
  | 0, octets, place => some (octets, place)
  | n + 1, octets, place => do
    let (octet, after) ← readOctet? place
    if octet / 0x40 == 2 then readContinuation? n (Char.ofNat octet :: octets) after else none

/-- The written bytes of one character, latest first, each as the character of its number. -/
def readOctets? (place : Place) : Option (List Char × Place) := do
  let (octet, after) ← readOctet? place
  let more ←
    if octet < 0x80 then some 0
    else if octet / 0x20 == 6 then some 1
    else if octet / 0x10 == 14 then some 2
    else if octet / 0x08 == 30 then some 3
    else none
  readContinuation? more [Char.ofNat octet] after

/-- Characters of tags; inside angle brackets also flow indicators. -/
def isTagChar (verbatim : Bool) (c : Char) : Bool :=
  isNameChar c || c ∈ [';', '/', '?', ':', '@', '&', '=', '+', '$', '.', '%', '!', '~', '*', '\'',
    '(', ')'] || (verbatim && c ∈ [',', '[', ']'])

/-- The characters of a tag, latest first on `text`. -/
def readTagText? (verbatim : Bool) : Nat → List Char → Place → Option (List Char × Place)
  | 0, text, place => some (text, place)
  | fuel + 1, text, place =>
    match place.next? with
    | none => some (text, place)
    | some c =>
      if !isTagChar verbatim c then some (text, place)
      else if c == '%' then
        match readOctets? place with
        | none => none
        | some (octets, after) => readTagText? verbatim fuel (octets ++ text) after
      else readTagText? verbatim fuel (c :: text) (place.skip 1)

/-- The text of a tag after a part that is already read; it ends at a zero byte. -/
def readTagFrom? (verbatim : Bool) (first : List Char) (place : Place) :
    Option (String × Place) := do
  let (text, after) ← readTagText? verbatim place.rest.length [] place
  if first.isEmpty && text.isEmpty then none
  return (String.ofList ((first.drop 1 ++ text.reverse).takeWhile (· != Char.ofNat 0)), after)

/-- An exclamation mark, a name, and another mark if there is one. -/
def readHandle? (place : Place) : Option (List Char × Place) :=
  if place.next? == some '!' then
    let (name, after) := (place.skip 1).takeWhile isNameChar
    if after.next? == some '!' then some ('!' :: name ++ ['!'], after.skip 1)
    else some ('!' :: name, after)
  else none

/-- A tag: its handle and the rest of it. -/
def readTag? (inFlow : Bool) (place : Place) : Option (Token × Place) := do
  let (token, after) ←
    if place.at? 1 == some '<' then do
      let (suffix, after) ← readTagFrom? true [] (place.skip 2)
      if after.next? != some '>' then none
      some (Token.tag "" suffix, after.skip 1)
    else do
      let (handle, after) ← readHandle? place
      if 1 < handle.length && handle.getLast? == some '!' then
        let (suffix, after) ← readTagFrom? false [] after
        some (Token.tag (String.ofList handle) suffix, after)
      else
        let (suffix, after) ← readTagFrom? false handle after
        some (if suffix.isEmpty then Token.tag "" "!" else Token.tag "!" suffix, after)
  if isGapOrEnd after.next? || (inFlow && after.next? == some ',') then
    return (token, after)
  else none

/-- A number of at most nine digits. -/
def readVersionNumber? (place : Place) : Option (Nat × Place) :=
  let (digits, after) := place.takeWhile isAsciiDigit
  if digits.isEmpty || 9 < digits.length then none
  else some (digits.foldl (fun n c => 10 * n + (c.toNat - 0x30)) 0, after)

/-- A directive, after its percent sign, up to and with the end of its line. -/
def readDirective? (place : Place) : Option (Token × Place) := do
  let (name, after) := place.takeWhile isNameChar
  if name.isEmpty || !isGapOrEnd after.next? then none
  let (_, value) := after.takeWhile isGap
  let (token, after) ←
    match String.ofList name with
    | "YAML" => do
      let (major, after) ← readVersionNumber? value
      if after.next? != some '.' then none
      let (minor, after) ← readVersionNumber? (after.skip 1)
      some (Token.version major minor, after)
    | "TAG" => do
      let (handle, after) ← readHandle? value
      if 1 < handle.length && handle.getLast? != some '!' then none
      if !after.next?.any isGap then none
      let (meaning, after) ← readTagFrom? true [] (after.takeWhile isGap).2
      if !isGapOrEnd after.next? then none
      some (Token.tagDirective (String.ofList handle) meaning, after)
    | _ => none
  let (_, after) := after.takeWhile isGap
  let after :=
    if after.next? == some '#' then (after.takeWhile (fun c => !isBreak c)).2 else after
  if !isBreakOrEnd after.next? then none
  return (token, after.takeBreak.2)

/-! ## Tokens -/

/-- A directive or a document mark, outside all blocks. -/
def fetchMark? (s : Scan) (read : Place → Option (Token × Place)) : Option Scan := do
  let s ← (s.closeBlocks (-1)).dropCandidate?
  let (token, place) ← read s.place
  return { s.emit token with place, keyAllowed := false }

/-- The start of a flow collection, itself a possible key. -/
def fetchFlowStart? (s : Scan) (token : Token) : Option Scan := do
  let s ← s.saveCandidate?
  return { (s.emit token).skip 1 with flows := none :: s.flows, keyAllowed := true }

/-- The end of a flow collection. -/
def fetchFlowEnd? (s : Scan) (token : Token) : Option Scan := do
  let s ← s.dropCandidate?
  return { (s.emit token).skip 1 with flows := s.flows.drop 1, keyAllowed := false }

/-- A comma. -/
def fetchComma? (s : Scan) : Option Scan := do
  let s ← s.dropCandidate?
  return { (s.emit .flowEntry).skip 1 with keyAllowed := true }

/-- An entry of a block sequence. -/
def fetchDash? (s : Scan) : Option Scan := do
  if !s.inFlow && !s.keyAllowed then none
  let s ← (s.openBlock s.place.column none .blockSequenceStart).dropCandidate?
  return { (s.emit .blockEntry).skip 1 with keyAllowed := true }

/-- A question mark that announces a key. -/
def fetchKey? (s : Scan) : Option Scan := do
  if !s.inFlow && !s.keyAllowed then none
  let s ← (s.openBlock s.place.column none .blockMappingStart).dropCandidate?
  return { (s.emit .key).skip 1 with keyAllowed := !s.inFlow }

/-- A colon, which makes the possible key a key. -/
def fetchValue? (s : Scan) : Option Scan :=
  match s.candidate with
  | some key =>
    let s := s.emitAt key.position .key
    let s := s.openBlock key.column (some key.position) .blockMappingStart
    some { ((s.setCandidate none).emit .value).skip 1 with keyAllowed := false }
  | none =>
    if !s.inFlow && !s.keyAllowed then none
    else
      let s := s.openBlock s.place.column none .blockMappingStart
      some { (s.emit .value).skip 1 with keyAllowed := !s.inFlow }

/-- A token that may be a key, or stand before one. -/
def fetchInline? (s : Scan) (read : Place → Option (Token × Place)) : Option Scan := do
  let s ← s.saveCandidate?
  let (token, place) ← read s.place
  return { s.emit token with place, keyAllowed := false }

/-- A plain scalar. After one that ends with a line break a key may start. -/
def fetchPlain? (s : Scan) : Option Scan := do
  let s ← s.saveCandidate?
  let (text, broken, place) ← readPlain? s.inFlow (s.indent + 1) s.place
  return { s.emit (.scalar text .plain) with place, keyAllowed := broken }

/-- A block scalar. -/
def fetchBlockScalar? (s : Scan) (style : Style) : Option Scan := do
  let s ← s.dropCandidate?
  let (text, place) ← readBlock? style s.indent (s.place.skip 1)
  return { s.emit (.scalar text style) with place, keyAllowed := true }

/-- Whether a plain scalar can start with a character. -/
def startsPlain (inFlow : Bool) (c : Char) (next : Option Char) : Bool :=
  !(isGapOrEnd (some c) || c ∈ ['-', '?', ':', ',', '[', ']', '\x7b', '\x7d', '#', '&', '*', '!', '|',
      '>', '\'', '"', '%', '@', '\x60']) ||
    (c == '-' && !next.any isGap) ||
    (!inFlow && (c == '?' || c == ':') && !isGapOrEnd next)

/-- The next token; `c` is the next character. -/
def fetch? (s : Scan) (c : Char) : Option Scan :=
  let next := s.place.at? 1
  if s.place.column == 0 && c == '%' then
    s.fetchMark? fun place => readDirective? (place.skip 1)
  else if s.place.atMark '-' then s.fetchMark? fun place => some (.documentStart, place.skip 3)
  else if s.place.atMark '.' then s.fetchMark? fun place => some (.documentEnd, place.skip 3)
  else if c == '[' then s.fetchFlowStart? .flowSequenceStart
  else if c == '\x7b' then s.fetchFlowStart? .flowMappingStart
  else if c == ']' then s.fetchFlowEnd? .flowSequenceEnd
  else if c == '\x7d' then s.fetchFlowEnd? .flowMappingEnd
  else if c == ',' then s.fetchComma?
  else if c == '-' && isGapOrEnd next then s.fetchDash?
  else if c == '?' && (s.inFlow || isGapOrEnd next) then s.fetchKey?
  else if c == ':' && (s.inFlow || isGapOrEnd next) then s.fetchValue?
  else if c == '*' then s.fetchInline? fun place =>
    (readAnchor? (place.skip 1)).map fun (name, after) => (.alias name, after)
  else if c == '&' then s.fetchInline? fun place =>
    (readAnchor? (place.skip 1)).map fun (name, after) => (.anchor name, after)
  else if c == '!' then s.fetchInline? (readTag? s.inFlow)
  else if c == '|' && !s.inFlow then s.fetchBlockScalar? .literal
  else if c == '>' && !s.inFlow then s.fetchBlockScalar? .folded
  else if c == '\'' then s.fetchInline? fun place =>
    (readQuoted? '\'' (place.skip 1)).map fun (text, after) => (.scalar text .singleQuoted, after)
  else if c == '"' then s.fetchInline? fun place =>
    (readQuoted? '"' (place.skip 1)).map fun (text, after) => (.scalar text .doubleQuoted, after)
  else if startsPlain s.inFlow c next then s.fetchPlain?
  else none

/-- The tokens up to the end of the text. -/
def run? : Nat → Scan → Option Scan
  | 0, _ => none
  | fuel + 1, s => do
    let s ← (passBlanks (s.place.rest.length + 1) s).dropStale?
    let s := s.closeBlocks s.place.column
    match s.place.next? with
    | none => (s.closeBlocks (-1)).dropCandidate?
    | some c =>
      let s ← s.fetch? c
      run? fuel s

end Scan

/-- The tokens of a text. -/
def tokens? (text : String) : Option (List Token) :=
  let chars := text.toList
  if chars.all isReadable then
    (Scan.run? (chars.length + 1) (Scan.start chars)).map (·.tokens.toList)
  else none

end TokenAudit.Yaml
