import TokenAudit.Pattern.Written.Shape

/-!
# What trees mean

`Tree.shape?` gives a tree its meaning. A class that reaches beyond ASCII where the settings keep to
ASCII is refused, because it would stand for pieces of characters.
-/

namespace TokenAudit.Written

open Unicode (CodeSet Query)

/-! ## Classes -/

/-- The set with all cases of its members, if they do not matter. -/
def Flags.fold (flags : Flags) (set : CodeSet) : CodeSet :=
  if flags.anyCase then (if flags.unicode then set.anyCase else set.anyAsciiCase) else set

/-- The set or the characters outside it. -/
def Flags.negate (flags : Flags) (negated : Bool) (set : CodeSet) : CodeSet :=
  if negated then (if flags.unicode then set.compl else set.complUpTo 0xFF) else set

/-- A set that the settings allow. -/
def Flags.allow? (flags : Flags) (set : CodeSet) : Option CodeSet :=
  if flags.unicode || set.isAscii then some set else none

/-- A set after its cases and its negation. -/
def Flags.close? (flags : Flags) (negated : Bool) (set : CodeSet) : Option CodeSet :=
  flags.allow? (flags.negate negated (flags.fold set))

/-- The set of a class with a letter. -/
def LetterClass.set : (kind : LetterClass) → (unicode : Bool) → CodeSet
  | digit, false => .range 0x30 0x39
  | blank, false => .ofRanges [(0x09, 0x0D), (0x20, 0x20)]
  | word, false => .ofRanges [(0x30, 0x39), (0x41, 0x5A), (0x5F, 0x5F), (0x61, 0x7A)]
  | digit, true => .ofRanges ((0x30, 0x39) :: Unicode.digitTable.toList)
  | blank, true => Unicode.whiteSpace
  | word, true =>
    .ofRanges ([(0x30, 0x39), (0x41, 0x5A), (0x5F, 0x5F), (0x61, 0x7A)] ++ Unicode.wordTable.toList)

/-- The set of a class with a letter, under the settings. -/
def LetterClass.close? (kind : LetterClass) (flags : Flags) (negated : Bool) : Option CodeSet :=
  flags.allow? (flags.negate negated (kind.set flags.unicode))

/-- The set of a property, under the settings. -/
def propertySet? (flags : Flags) (negated : Bool) (query : Query) : Option CodeSet :=
  if flags.unicode then query.set?.bind (flags.close? negated) else none

/-- A character outside a class. Where the settings keep to ASCII a byte must do so too. -/
def Literal.char? (literal : Literal) (flags : Flags) : Option Char :=
  if flags.unicode || !literal.isByte || literal.char.toNat < 0x80 then some literal.char else none

/-- A character in a class. Where the settings keep to ASCII it must do so too. -/
def Literal.code? (literal : Literal) (flags : Flags) : Option Nat :=
  if flags.unicode || literal.char.toNat < 0x80 then some literal.char.toNat else none

/-- The set that an operation makes of two sets. -/
def ClassOp.combine : ClassOp → CodeSet → CodeSet → CodeSet
  | inter, a, b => a.inter b
  | diff, a, b => a.diff b
  | symm, a, b => a.symm b

mutual

/-- The set of what stands inside brackets. -/
def ClassTree.set? (flags : Flags) : ClassTree → Option CodeSet
  | .empty => some .empty
  | .literal char => (char.code? flags).map .single
  | .range first last => do
    let first ← first.code? flags
    let last ← last.code? flags
    some (.range first last)
  | .ascii negated set => flags.close? negated set
  | .letter negated kind => kind.close? flags negated
  | .property negated query => propertySet? flags negated query
  | .bracket negated inside => (inside.set? flags).bind (flags.close? negated)
  | .union items => (ClassTree.ranges? flags items).map .ofRanges
  | .combine op left right => do
    let left ← left.set? flags
    let right ← right.set? flags
    some (op.combine (flags.fold left) (flags.fold right))

/-- The ranges of all items. -/
def ClassTree.ranges? (flags : Flags) : List ClassTree → Option (List (Nat × Nat))
  | [] => some []
  | item :: rest => do
    let set ← item.set? flags
    let ranges ← ClassTree.ranges? flags rest
    some (set.ranges.toList ++ ranges)

end

/-! ## Trees -/

/-- One character that stands for itself, or for all its cases. -/
def literalShape (flags : Flags) (c : Char) : Shape :=
  if flags.unicode || c.toNat < 0x80 then .ofSet (flags.fold (.single c.toNat)) else .text [c]

/-- The set of the dot, which needs the settings to reach beyond ASCII. -/
def dotSet? (flags : Flags) : Option CodeSet :=
  if !flags.unicode then none
  else if flags.dotAll then some .all
  else if flags.returns then some (CodeSet.compl (.ofRanges [(0x0A, 0x0A), (0x0D, 0x0D)]))
  else some (CodeSet.compl (.single 0x0A))

/-- The condition of an anchor under the settings. -/
def Anchor.look (flags : Flags) : Anchor → Look
  | lineStart => if flags.multiLine then .lineStart flags.returns else .textStart
  | lineEnd => if flags.multiLine then .lineEnd flags.returns else .textEnd
  | textStart => .textStart
  | textEnd => .textEnd
  | word => .word flags.unicode
  | notWord => .notWord flags.unicode
  | wordStart => .wordStart flags.unicode
  | wordEnd => .wordEnd flags.unicode
  | wordStartHalf => .wordStartHalf flags.unicode
  | wordEndHalf => .wordEndHalf flags.unicode

mutual

/-- What a tree means, if it means anything. -/
def Tree.shape? : Tree → Option Shape
  | .empty => some .empty
  | .literal flags char => (char.char? flags).map (literalShape flags)
  | .dot flags => (dotSet? flags).map .ofSet
  | .anchor flags condition => some (.look (condition.look flags))
  | .letter flags negated kind => (kind.close? flags negated).map .ofSet
  | .property flags negated query => (propertySet? flags negated query).map .ofSet
  | .bracket flags negated inside =>
    ((inside.set? flags).bind (flags.close? negated)).map .ofSet
  | .repeated greedy count body => body.shape?.map (.ofRounds greedy count)
  | .group none body => body.shape?
  | .group (some index) body => body.shape?.map (.group index)
  | .sequence parts => (Tree.shapes? parts).map .ofParts
  | .choice branches => (Tree.shapes? branches).map fun shapes => .ofBranches shapes.length shapes

/-- What several trees mean. -/
def Tree.shapes? : List Tree → Option (List Shape)
  | [] => some []
  | tree :: rest => do
    let shape ← tree.shape?
    let shapes ← Tree.shapes? rest
    some (shape :: shapes)

end

end TokenAudit.Written
