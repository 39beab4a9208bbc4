import TokenAudit.Pattern.Written.Meaning
import TokenAudit.Pattern.Written.Read
import TokenAudit.Pattern.Written.Search
import TokenAudit.Pattern.Written.Size

/-!
# Written patterns

Patterns can be given as text, in the usual notation: alternatives, groups, repetitions, classes,
escapes and flags. `Shape.parse?` reads one. It refuses what is not well formed, nested too deeply, or too
large. `escape` writes a text as the pattern that matches just this text.
-/

namespace TokenAudit.Written

/-- The pattern that matches just this text. -/
def escape (text : String) : String :=
  String.ofList (text.toList.flatMap fun c => if metaChars.contains c then ['\\', c] else [c])

/-- The deepest nesting that is accepted. -/
def maxDepth : Nat := 250

/-- The pattern that a text writes. -/
def Shape.parse? (written : String) : Option Shape := do
  let tree ← Tree.read? written.toList
  guard (tree.depth ≤ maxDepth)
  let shape ← tree.shape?
  guard shape.fits
  some shape

/-- The patterns among the texts; those that write none are left out. -/
def parseAll (written : List String) : List Shape :=
  written.filterMap Shape.parse?

/-- Whether some pattern has a match in the text. -/
def anyMatch (shapes : List Shape) (text : List Char) : Bool :=
  shapes.any (·.isMatch text)

end TokenAudit.Written
