import TokenAudit.Pattern.Written.Tree
import TokenAudit.Text.Offset

/-!
# Shapes

A shape is what a written pattern means: settings are resolved, classes are sets, and simple
equivalences are used to make it smaller. Sequences and choices are flat, neighbouring characters of a
sequence are joined, and a choice between single characters is a set.
-/

namespace TokenAudit.Written

open Unicode (CodeSet)

/-- A condition on a place between two characters. -/
inductive Look
  /-- The start of the text. -/
  | textStart
  /-- The end of the text. -/
  | textEnd
  /-- The start of a line; a carriage return ends one too if `returns` is set. -/
  | lineStart (returns : Bool)
  /-- The end of a line. -/
  | lineEnd (returns : Bool)
  /-- A word starts or ends here; words reach beyond ASCII if `unicode` is set. -/
  | word (unicode : Bool)
  /-- No word starts or ends here. -/
  | notWord (unicode : Bool)
  /-- A word starts here. -/
  | wordStart (unicode : Bool)
  /-- A word ends here. -/
  | wordEnd (unicode : Bool)
  /-- No word character stands before this place. -/
  | wordStartHalf (unicode : Bool)
  /-- No word character stands after this place. -/
  | wordEndHalf (unicode : Bool)
  deriving Repr, BEq, DecidableEq

namespace Look

/-- Whether a neighbour is a word character; the ends of the text are not. -/
def wordSide (unicode : Bool) (neighbour : Option Char) : Bool :=
  neighbour.any fun c => Unicode.isWord c && (unicode || c.toNat < 0x80)

/-- Whether the condition holds between the characters `before` and `after`. No line starts or ends
between a carriage return and the line feed after it. -/
def holds (look : Look) (before after : Option Char) : Bool :=
  match look with
  | textStart => before.isNone
  | textEnd => after.isNone
  | lineStart false => before.all (· == '\n')
  | lineEnd false => after.all (· == '\n')
  | lineStart true => before.all fun c => c == '\n' || (c == '\r' && after != some '\n')
  | lineEnd true => after.all fun c => c == '\r' || (c == '\n' && before != some '\r')
  | word u => wordSide u before != wordSide u after
  | notWord u => wordSide u before == wordSide u after
  | wordStart u => !wordSide u before && wordSide u after
  | wordEnd u => wordSide u before && !wordSide u after
  | wordStartHalf u => !wordSide u before
  | wordEndHalf u => !wordSide u after

end Look

/-- What a written pattern means. -/
inductive Shape
  /-- The empty piece. -/
  | empty
  /-- Exactly these characters, one at least. -/
  | text (chars : List Char)
  /-- One character of the set. -/
  | one (set : CodeSet)
  /-- The empty piece, at a place where the condition holds. -/
  | look (condition : Look)
  /-- Rounds of a piece. -/
  | repeated (greedy : Bool) (count : Count) (body : Shape)
  /-- A piece that is remembered under a number. -/
  | group (index : Nat) (body : Shape)
  /-- One piece after the other. -/
  | sequence (parts : List Shape)
  /-- A piece of one of these kinds. -/
  | choice (branches : List Shape)

namespace Shape

/-! ## Equality -/

mutual

/-- Whether two shapes are the same. -/
def same : Shape → Shape → Bool
  | empty, empty => true
  | text a, text b => a == b
  | one a, one b => a == b
  | look a, look b => a == b
  | repeated g c a, repeated h d b => g == h && c == d && a.same b
  | group i a, group j b => i == j && a.same b
  | sequence a, sequence b => sameAll a b
  | choice a, choice b => sameAll a b
  | _, _ => false

/-- Whether two lists of shapes are the same. -/
def sameAll : List Shape → List Shape → Bool
  | [], [] => true
  | a :: as, b :: bs => a.same b && sameAll as bs
  | _, _ => false

end

/-! ## Lengths -/

mutual

/-- Whether all pieces are empty. -/
def isEmptyOnly : Shape → Bool
  | empty | look _ => true
  | text _ | one _ => false
  | repeated _ count body => count.most.isSome && body.isEmptyOnly
  | group _ body => body.isEmptyOnly
  | sequence parts => areEmptyOnly parts
  | choice branches => areEmptyOnly branches

/-- Whether all pieces of all shapes are empty. -/
def areEmptyOnly : List Shape → Bool
  | [] => true
  | shape :: rest => shape.isEmptyOnly && areEmptyOnly rest

end

mutual

/-- A lower bound for the length of a piece; there is none where an empty set is in the way. -/
def least? : Shape → Option Nat
  | empty | look _ => some 0
  | text chars => some chars.length
  | one set => if set.ranges.isEmpty then none else some 1
  | repeated _ count body => body.least?.map (count.least * ·)
  | group _ body => body.least?
  | sequence parts => leastSum? parts
  | choice branches => leastMin? branches

/-- The sum of the lower bounds. -/
def leastSum? : List Shape → Option Nat
  | [] => some 0
  | shape :: rest =>
    match shape.least?, leastSum? rest with
    | some a, some b => some (a + b)
    | _, _ => none

/-- The least of the lower bounds. -/
def leastMin? : List Shape → Option Nat
  | [] => none
  | [shape] => shape.least?
  | shape :: rest =>
    match shape.least?, leastMin? rest with
    | some a, some b => some (min a b)
    | _, _ => none

end

/-! ## Building -/

/-- The empty piece does not count in a sequence, and a sequence in it is taken apart. -/
def parts : Shape → List Shape
  | empty => []
  | sequence parts => parts
  | shape => [shape]

/-- Joins neighbouring characters. -/
def joinText : List Shape → List Shape
  | [] => []
  | shape :: rest =>
    match shape, joinText rest with
    | text a, text b :: rest => text (a ++ b) :: rest
    | shape, rest => shape :: rest

/-- Shapes one after the other. -/
def ofParts (shapes : List Shape) : Shape :=
  match joinText (shapes.flatMap parts) with
  | [] => empty
  | [shape] => shape
  | parts => sequence parts

/-- One character of a set. -/
def ofSet (set : CodeSet) : Shape :=
  match set.ranges.toList with
  | [(first, last)] => if first == last then text [Char.ofNat first] else one set
  | _ => one set

/-- The set of a shape whose pieces are single characters. -/
def set? : Shape → Option CodeSet
  | text [c] => some (.single c.toNat)
  | one set => some set
  | _ => none

/-- How many parts from the start on two lists share. -/
def commonLength : List Shape → List Shape → Nat
  | a :: as, b :: bs => if a.same b then commonLength as bs + 1 else 0
  | _, _ => 0

/-- The sequences of a list of shapes that are all sequences. -/
def sequences? (shapes : List Shape) : Option (List (List Shape)) :=
  shapes.mapM fun
    | sequence parts => some parts
    | _ => none

/-- The parts that all shapes start with, and what comes after them in each. -/
def liftCommon? (shapes : List Shape) : Option (List Shape × List (List Shape)) :=
  match sequences? shapes with
  | some (first :: others) =>
    let shared := others.foldl (fun n other => min n (commonLength first other)) first.length
    if shared == 0 then none
    else some (first.take shared, (first :: others).map (·.drop shared))
  | _ => none

/-- Shapes to choose from, whose choices are taken apart. What all start with is put in front, and then
what comes after it is looked at again, `fuel` times at most. -/
def ofBranches (fuel : Nat) (shapes : List Shape) : Shape :=
  let flat := shapes.flatMap fun
    | choice branches => branches
    | shape => [shape]
  match flat with
  | [shape] => shape
  | _ =>
    match flat.mapM set? with
    | some sets => ofSet (.ofRanges (sets.flatMap (·.ranges.toList)))
    | none =>
      match fuel, liftCommon? flat with
      | fuel + 1, some (shared, rests) => ofParts (shared ++ [ofBranches fuel (rests.map ofParts)])
      | _, _ => choice flat

/-- A piece repeated. More than one round of an empty piece is as good as one. -/
def ofRounds (greedy : Bool) (count : Count) (body : Shape) : Shape :=
  let count : Count :=
    if body.isEmptyOnly then ⟨min count.least 1, some (min (count.most.getD 1) 1)⟩ else count
  if count.most == some 0 then empty
  else if count == ⟨1, some 1⟩ then body
  else repeated greedy count body

end Shape

end TokenAudit.Written
