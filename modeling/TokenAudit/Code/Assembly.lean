import TokenAudit.Pattern.Match

/-!
# Inline assembly

Code with inline assembly is out of reach for textual rules. Three signs give it away: the opening
of an assembly block, a declaration in the assembly language, and its load instructions.
-/

namespace TokenAudit.Assembly

open Pattern

/-- The opening of a block: the keyword, then a dialect or a flag word, then flags in parentheses,
all but the keyword optional. -/
def block : Pattern :=
  sequence [wordEdge, litAnyCase "assembly", blanks, opt (anyOf [quoted, wordRun]), blanks,
    opt (sequence [lit "(", blanks, quoted, blanks, lit ")"]), blanks, lit "\x7b"]

/-- A declaration inside a block. -/
def declaration : Pattern :=
  sequence [wordEdge, litAnyCase "let", blanks1, wordRun, blanks, lit ":="]

/-- A load from memory or from storage. -/
def load : Pattern :=
  anyOf [litAnyCase "mload(", litAnyCase "sload("]

/-- Whether the code shows a sign of inline assembly. -/
def occursIn (code : List Char) : Bool :=
  [block, declaration, load].any (·.isMatch code)

end TokenAudit.Assembly
