import TokenAudit.Unicode.CaseFolding
import TokenAudit.Unicode.Class

/-!
# Sets of characters in patterns
-/

namespace TokenAudit

/-- A set of characters, given by how it is put together. -/
inductive CharSet
  /-- Whitespace. -/
  | blank
  /-- Word characters. -/
  | word
  /-- Decimal digits of every script. -/
  | digit
  /-- Exactly the listed characters. -/
  | oneOf (members : List Char)
  /-- The characters from `first` to `last`. -/
  | range (first last : Char)
  /-- The characters of either set. -/
  | union (left right : CharSet)
  /-- The characters outside the set. -/
  | compl (set : CharSet)
  deriving Repr, BEq, DecidableEq, Inhabited

namespace CharSet

/-- Whether the set holds `c`. -/
def contains : CharSet → Char → Bool
  | blank, c => Unicode.isBlank c
  | word, c => Unicode.isWord c
  | digit, c => Unicode.isDigit c
  | oneOf members, c => members.contains c
  | range first last, c => first ≤ c && c ≤ last
  | union left right, c => left.contains c || right.contains c
  | compl set, c => !set.contains c

/-- The characters outside `members`. -/
def noneOf (members : List Char) : CharSet :=
  compl (oneOf members)

/-- No character at all. -/
def none : CharSet :=
  oneOf []

/-- Hexadecimal digits of either case. -/
def hexDigit : CharSet :=
  union (range '0' '9') (union (range 'a' 'f') (range 'A' 'F'))

end CharSet

end TokenAudit
