/-!
# Nested brackets

`enclosed` reads what stands between an opening bracket and the closing bracket that belongs to it.
Brackets are counted wherever they stand, inside strings and comments too.
-/

namespace TokenAudit.Text

/-- A pair of brackets. -/
structure Brackets where
  /-- The opening bracket. -/
  opener : Char
  /-- The closing bracket. -/
  closer : Char
  deriving Repr, BEq, DecidableEq

/-- Round brackets. -/
def parens : Brackets := ⟨'(', ')'⟩

/-- Curly brackets. -/
def braces : Brackets := ⟨'\x7b', '\x7d'⟩

/-- The text up to the bracket that closes `depth` more levels, and the text after that bracket, when
the levels above the innermost are already counted. `none` if the text ends first, or if the
nesting gets deeper than `limit`. -/
def enclosedAt (pair : Brackets) (limit : Option Nat) :
    Nat → List Char → Option (List Char × List Char)
  | _, [] => none
  | depth, c :: rest =>
    if c == pair.opener then
      if limit.any (· < depth + 1) then none
      else (enclosedAt pair limit (depth + 1) rest).map fun (inner, after) => (c :: inner, after)
    else if c == pair.closer then
      if depth ≤ 1 then some ([], rest)
      else (enclosedAt pair limit (depth - 1) rest).map fun (inner, after) => (c :: inner, after)
    else (enclosedAt pair limit depth rest).map fun (inner, after) => (c :: inner, after)

/-- What stands between an opening bracket, just read, and its closing bracket, together with the
text after the closing bracket. The bracket just read is the first level that `limit` counts. -/
def enclosed (pair : Brackets) (limit : Option Nat) (text : List Char) :
    Option (List Char × List Char) :=
  enclosedAt pair limit 1 text

end TokenAudit.Text
