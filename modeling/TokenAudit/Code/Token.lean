import TokenAudit.Unicode.Class

/-!
# Tokens

Code is cut into words and single characters; whitespace only separates. A word that starts with a
digit is a number.
-/

namespace TokenAudit

open Unicode

/-- A token of code. -/
inductive Token
  /-- A word that does not start with a digit. -/
  | ident (name : List Char)
  /-- A word that starts with a digit. -/
  | number
  /-- Any other character. -/
  | punct (c : Char)
  deriving Repr, BEq, DecidableEq

namespace Token

/-- Characters that words are made of. -/
def isWordPart (c : Char) : Bool :=
  isAlphanumeric c || c == '_' || c == '$'

/-- The token of a word. -/
def ofWord (word : List Char) : Token :=
  if word.head?.any isAsciiDigit then number else ident word

/-- The tokens of a text. `word` is the word being read, last character first. -/
def scanFrom (word : List Char) : List Char → List Token
  | [] => if word.isEmpty then [] else [ofWord word.reverse]
  | c :: rest =>
    if isWordPart c then scanFrom (c :: word) rest
    else
      let here := if isBlank c then scanFrom [] rest else punct c :: scanFrom [] rest
      if word.isEmpty then here else ofWord word.reverse :: here

/-- The tokens of a text. -/
def scan (text : List Char) : List Token :=
  scanFrom [] text

end Token

end TokenAudit
