import TokenAudit.Hash.Hex
import TokenAudit.Yaml.Scalar
import TokenAudit.Yaml.Token

/-!
# Writing YAML

Strings are written as values of a block mapping in the plainest style that reads back: plain, in
single quotes, as a literal block, or in double quotes.
-/

namespace TokenAudit.Yaml

/-- Characters that are written as they are. -/
def isPrintable (c : Char) : Bool :=
  let n := c.toNat
  n == 0x0A || (0x20 ≤ n && n ≤ 0x7E) || (0xA0 ≤ n && n ≤ 0xFFFD && n != 0xFEFF) || 0x10000 ≤ n

/-- Characters that cannot start a plain scalar. -/
def isIndicator (c : Char) : Bool :=
  c ∈ ['#', ',', '[', ']', '\x7b', '\x7d', '&', '*', '!', '|', '>', '\'', '"', '%', '@', '\x60']

/-- Each item of a list with the items before and after it. -/
def neighbours {α : Type} : Option α → List α → List (Option α × α × Option α)
  | _, [] => []
  | before, a :: rest => (before, a, rest.head?) :: neighbours (some a) rest

/-- Whether a character gives a plain scalar another meaning, given its neighbours. -/
def isMisleading : Option Char × Char × Option Char → Bool
  | (none, c, next) => isIndicator c || (c ∈ ['?', ':', '-'] && isGapOrEnd next)
  | (some before, c, next) =>
    (c == ':' && isGapOrEnd next) || (c == '#' && isGapOrEnd (some before))

/-- Whether a text starts with three dashes or three dots. -/
def startsAsMark (text : List Char) : Bool :=
  text.take 3 == ['-', '-', '-'] || text.take 3 == ['.', '.', '.']

/-- Whether two characters that satisfy `first` and `second` follow each other. -/
def hasPair (first second : Char → Bool) (text : List Char) : Bool :=
  (text.zip (text.drop 1)).any fun (a, b) => first a && second b

/-- Whether only double quotes can hold a text. -/
def needsEscapes (text : List Char) : Bool :=
  text.any (!isPrintable ·) || hasPair (· == ' ') isBreak text

/-- Whether a text can be written plain. -/
def plainAllowed (text : List Char) : Bool :=
  !(needsEscapes text || text.any isBreak || startsAsMark text || text.head? == some ' ' ||
    text.getLast? == some ' ' || (neighbours none text).any isMisleading)

/-- Whether a text can be written in single quotes. -/
def singleQuotesAllowed (text : List Char) : Bool :=
  !(needsEscapes text || hasPair isBreak (· == ' ') text)

/-- Whether a text can be written as a literal block. -/
def literalAllowed (text : List Char) : Bool :=
  !(needsEscapes text || text.getLast? == some ' ')

/-- The style in which a string is written. -/
def styleOf (text : String) : Style :=
  let chars := text.toList
  if chars.contains '\n' then
    if literalAllowed chars then .literal else .doubleQuoted
  else if plainAllowed chars && !isAmbiguous text then .plain
  else if singleQuotesAllowed chars then .singleQuoted
  else .doubleQuoted

/-- The indentation of text that continues a scalar on a new line. -/
def indentation : List Char :=
  [' ', ' ']

/-- The text between single quotes; `broken` tells whether a line break comes before it. -/
def singleQuotedText : (broken : Bool) → List Char → List Char
  | broken, [] => if broken then indentation else []
  | broken, c :: rest =>
    if isBreak c then c :: singleQuotedText true rest
    else
      (if broken then indentation else []) ++ (if c == '\'' then ['\'', '\''] else [c]) ++
        singleQuotedText false rest

/-- The lowest `width` hexadecimal digits of a number, in capitals. -/
def upperHex : (width : Nat) → Nat → List Char
  | 0, _ => []
  | width + 1, n => upperHex width (n / 16) ++ [(Hash.hexDigit (n % 16)).toUpper]

/-- A character that double quotes cannot hold as it is. -/
def escapedChar (c : Char) : List Char :=
  match c.toNat with
  | 0x00 => ['0']
  | 0x07 => ['a']
  | 0x08 => ['b']
  | 0x09 => ['t']
  | 0x0A => ['n']
  | 0x0B => ['v']
  | 0x0C => ['f']
  | 0x0D => ['r']
  | 0x1B => ['e']
  | 0x22 => ['"']
  | 0x5C => ['\\']
  | 0x85 => ['N']
  | 0xA0 => ['_']
  | 0x2028 => ['L']
  | 0x2029 => ['P']
  | n =>
    if n ≤ 0xFF then 'x' :: upperHex 2 n
    else if n ≤ 0xFFFF then 'u' :: upperHex 4 n
    else 'U' :: upperHex 8 n

/-- The text between double quotes. -/
def doubleQuotedText (text : List Char) : List Char :=
  text.flatMap fun c =>
    if !isPrintable c || isBreak c || c == '"' || c == '\\' then '\\' :: escapedChar c else [c]

/-- The signs after the indicator of a literal block: an indentation if the block starts with a blank,
and what becomes of the line breaks at its end. -/
def literalSigns (text : List Char) : List Char :=
  let indent := if text.head?.any fun c => c == ' ' || isBreak c then ['2'] else []
  let chomp := match text.reverse with
    | [] => ['-']
    | [c] => if isBreak c then ['+'] else ['-']
    | c :: d :: _ => if !isBreak c then ['-'] else if isBreak d then ['+'] else []
  indent ++ chomp

/-- The lines of a literal block; `broken` tells whether a line break comes before them. -/
def literalText : (broken : Bool) → List Char → List Char
  | _, [] => []
  | broken, c :: rest =>
    if isBreak c then c :: literalText true rest
    else (if broken then indentation else []) ++ c :: literalText false rest

/-- A string as the value of a field, up to and with the end of its last line. -/
def renderString (text : String) : String :=
  let chars := text.toList
  String.ofList <| match styleOf text with
    | .singleQuoted => '\'' :: singleQuotedText false chars ++ ['\'', '\n']
    | .literal | .folded =>
      '|' :: literalSigns chars ++ '\n' :: literalText true chars ++
        (if chars.getLast?.any isBreak then [] else ['\n'])
    | .doubleQuoted => '"' :: doubleQuotedText chars ++ ['"', '\n']
    | .plain => chars ++ ['\n']

end TokenAudit.Yaml
