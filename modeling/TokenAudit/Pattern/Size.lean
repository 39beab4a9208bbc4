import TokenAudit.Pattern.Match
import TokenAudit.Pattern.Written.Meaning
import TokenAudit.Pattern.Written.Size

/-!
# Patterns that are too large

Names of the code under audit are spliced into patterns, and a pattern with a very long name can be
too large for the machines that search for it. Such a pattern is never used: it finds nothing.

How large the machines are is told by the shape of a pattern. Most patterns are so small that this
need not be asked.
-/

namespace TokenAudit

open Unicode (CodeSet)
open Written (Flags LetterClass Look Shape literalShape)

namespace CharSet

/-- The code points of a set. -/
def codes : CharSet → CodeSet
  | blank => Unicode.whiteSpace
  | word => LetterClass.word.set true
  | digit => LetterClass.digit.set true
  | oneOf members => .ofRanges (members.map fun c => (c.toNat, c.toNat))
  | range first last => .range first.toNat last.toNat
  | union left right => left.codes.union right.codes
  | compl set => set.codes.compl

/-- A bound for the number of ranges of a set. -/
def rangeCount : CharSet → Nat
  | blank => 10
  | word => 4 + Unicode.wordTable.size
  | digit => 1 + Unicode.digitTable.size
  | oneOf members => members.length
  | range _ _ => 1
  | union left right => left.rangeCount + right.rangeCount
  | compl set => set.rangeCount + 1

/-- A bound for what one character of a set takes. -/
def weight (set : CharSet) : Nat :=
  128 + 7000 * set.rangeCount

end CharSet

/-- The condition as written patterns have it. -/
def Edge.look : Edge → Look
  | textStart => .textStart
  | textEnd => .textEnd
  | word => .word true

namespace Pattern

/-- The shape of a pattern. One character and then any number of the same kind are at least one of
them, and a piece or nothing is one that may be missing. -/
def shape : Pattern → Shape
  | empty => .empty
  | text chars => .text chars
  | textAnyCase chars => .sequence (chars.map (literalShape { Flags.start with anyCase := true }))
  | one set => .ofSet set.codes
  | run greedy set => .repeated greedy ⟨0, none⟩ (.ofSet set.codes)
  | seq first second =>
    match first, second with
    | one set, run greedy more =>
      if set = more then .repeated greedy ⟨1, none⟩ (.ofSet set.codes)
      else .sequence [first.shape, second.shape]
    | _, _ => .sequence [first.shape, second.shape]
  | either first second =>
    match second with
    | empty => .repeated true ⟨0, some 1⟩ first.shape
    | _ =>
      match second.shape with
      | .choice branches => .choice (first.shape :: branches)
      | other => .choice [first.shape, other]
  | star greedy body => .repeated greedy ⟨0, none⟩ body.shape
  | group index body => .group index body.shape
  | edge condition => .look condition.look

/-- A bound for what the machines of a simple pattern take. -/
def weight? : Pattern → Option Nat
  | empty | edge _ => some 32
  | text chars => some (32 * Text.byteLength chars)
  | one set => some set.weight
  | run _ set => some (set.weight + 112)
  | seq first second =>
    match first, second with
    | one set, run _ more =>
      if set = more then some (set.weight + 40)
      else return (← first.weight?) + (← second.weight?)
    | _, _ => return (← first.weight?) + (← second.weight?)
  | either first empty => first.weight?.map (· + 72)
  | group _ body => body.weight?.map (· + 64)
  | _ => none

/-- Whether a pattern is small enough to be used. -/
def fits (p : Pattern) : Bool :=
  p.weight?.any (· ≤ 10000000) || p.shape.fits

/-- Whether a pattern finds something in the text, if it is small enough to be used. -/
def finds (p : Pattern) (text : List Char) : Bool :=
  p.isMatch text && p.fits

/-- Whether some pattern of the list finds something. -/
def anyMatch (patterns : List Pattern) (text : List Char) : Bool :=
  patterns.any (·.finds text)

end Pattern

end TokenAudit
