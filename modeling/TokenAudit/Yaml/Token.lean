import TokenAudit.Unicode.Class

/-!
# YAML tokens

A YAML text is read as a list of tokens. Indentation shows up as tokens that open and close blocks.
-/

namespace TokenAudit.Yaml

/-- How a scalar is written. -/
inductive Style
  /-- Without quotes. -/
  | plain
  /-- In single quotes. -/
  | singleQuoted
  /-- In double quotes. -/
  | doubleQuoted
  /-- As an indented block that keeps its line breaks. -/
  | literal
  /-- As an indented block that folds its line breaks. -/
  | folded
  deriving Repr, BEq, DecidableEq

/-- A token. -/
inductive Token
  /-- A version directive. -/
  | version (major minor : Nat)
  /-- A directive that gives a tag handle its meaning. -/
  | tagDirective (handle meaning : String)
  /-- The mark that starts a document. -/
  | documentStart
  /-- The mark that ends a document. -/
  | documentEnd
  /-- A block sequence starts. -/
  | blockSequenceStart
  /-- A block mapping starts. -/
  | blockMappingStart
  /-- The innermost block ends. -/
  | blockEnd
  /-- An opening square bracket. -/
  | flowSequenceStart
  /-- A closing square bracket. -/
  | flowSequenceEnd
  /-- An opening brace. -/
  | flowMappingStart
  /-- A closing brace. -/
  | flowMappingEnd
  /-- An entry of a block sequence. -/
  | blockEntry
  /-- A comma in a flow collection. -/
  | flowEntry
  /-- A key follows. -/
  | key
  /-- A value follows. -/
  | value
  /-- A reference to an anchor. -/
  | alias (name : String)
  /-- A name for the node that follows. -/
  | anchor (name : String)
  /-- A tag for the node that follows. -/
  | tag (handle suffix : String)
  /-- A scalar. -/
  | scalar (text : String) (style : Style)
  deriving Repr, BEq, DecidableEq

/-- Line breaks. -/
def isBreak (c : Char) : Bool :=
  c == '\n' || c == '\r' || c.toNat == 0x85 || c.toNat == 0x2028 || c.toNat == 0x2029

/-- Spaces and tabs. -/
def isGap (c : Char) : Bool :=
  c == ' ' || c == '\t'

/-- Spaces, tabs, line breaks, and the end of the text. -/
def isGapOrEnd : Option Char → Bool
  | none => true
  | some c => isGap c || isBreak c

/-- Line breaks and the end of the text. -/
def isBreakOrEnd : Option Char → Bool
  | none => true
  | some c => isBreak c

/-- Characters of anchor names and tag handles. -/
def isNameChar (c : Char) : Bool :=
  Unicode.isAsciiLetter c || Unicode.isAsciiDigit c || c == '_' || c == '-'

/-- Characters that a YAML text may hold. -/
def isReadable (c : Char) : Bool :=
  let n := c.toNat
  c == '\t' || c == '\n' || c == '\r' || (0x20 ≤ n && n ≤ 0x7E) || n == 0x85 ||
    (0xA0 ≤ n && n ≤ 0xFFFD) || 0x10000 ≤ n

/-- A place in a text. -/
structure Place where
  /-- The text after the place. -/
  rest : List Char
  /-- The number of line breaks before it. -/
  line : Nat
  /-- The number of characters before it in its line. -/
  column : Nat
  /-- The number of bytes before it. -/
  index : Nat

namespace Place

/-- The character at a distance. -/
def at? (p : Place) (n : Nat) : Option Char :=
  p.rest[n]?

/-- The next character. -/
def next? (p : Place) : Option Char :=
  p.rest.head?

/-- The number of bytes that the next `n` characters take. -/
def width (p : Place) (n : Nat) : Nat :=
  (p.rest.take n).foldl (fun bytes c => bytes + c.utf8Size) 0

/-- The place `n` characters further on in the same line. -/
def skip (p : Place) (n : Nat) : Place :=
  { p with rest := p.rest.drop n, column := p.column + n, index := p.index + p.width n }

/-- The line break at the place as it is kept, and the place after it. Breaks of two characters count
as one; only the Unicode separators are kept as they are. -/
def takeBreak (p : Place) : List Char × Place :=
  let onward (n : Nat) : Place :=
    { rest := p.rest.drop n, line := p.line + 1, column := 0, index := p.index + p.width n }
  match p.rest with
  | '\r' :: '\n' :: _ => (['\n'], onward 2)
  | c :: _ => (if c.toNat == 0x2028 || c.toNat == 0x2029 then [c] else ['\n'], onward 1)
  | [] => ([], p)

/-- The characters that satisfy `test`, and the place after them in the same line. -/
def takeWhile (p : Place) (test : Char → Bool) : List Char × Place :=
  let taken := p.rest.takeWhile test
  (taken, p.skip taken.length)

/-- Whether a document mark stands here: three equal characters at the start of a line. -/
def atMark (p : Place) (c : Char) : Bool :=
  p.column == 0 && p.rest.take 3 == [c, c, c] && isGapOrEnd (p.at? 3)

/-- Whether some document mark stands here. -/
def atDocumentMark (p : Place) : Bool :=
  p.atMark '-' || p.atMark '.'

end Place

end TokenAudit.Yaml
