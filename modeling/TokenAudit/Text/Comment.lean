import TokenAudit.Text.Words

/-!
# Comments

A block comment runs from `/*` to the next `*/`; without one it is no comment. A line comment runs
from `//` to the end of its line. Each comment becomes one space.
-/

namespace TokenAudit.Text

/-- What the text being read belongs to. -/
inductive Region
  /-- Code. -/
  | code
  /-- A block comment. -/
  | block
  /-- A line comment. -/
  | line
  deriving Repr, BEq, DecidableEq

/-- The text with each comment replaced by one space, where the text starts in `region`. -/
def stripFrom : Region → List Char → List Char
  | _, [] => []
  | .code, '/' :: '*' :: rest =>
    if hasInfix ['*', '/'] rest then ' ' :: stripFrom .block rest
    else '/' :: '*' :: stripFrom .code rest
  | .code, '/' :: '/' :: rest => ' ' :: stripFrom .line rest
  | .code, c :: rest => c :: stripFrom .code rest
  | .block, '*' :: '/' :: rest => stripFrom .code rest
  | .block, _ :: rest => stripFrom .block rest
  | .line, '\n' :: rest => '\n' :: stripFrom .code rest
  | .line, _ :: rest => stripFrom .line rest

/-- The text with each comment replaced by one space. -/
def stripComments (text : List Char) : List Char :=
  stripFrom .code text

/-- The text without comments and with single spaces for whitespace. -/
def condenseChars (text : List Char) : List Char :=
  collapseChars (stripComments text)

/-- The text without comments and with single spaces for whitespace. -/
def condense (text : String) : String :=
  String.ofList (condenseChars text.toList)

end TokenAudit.Text
