import TokenAudit.Pattern.Written.Shape

/-!
# Searching

All ways to match are followed at once. Marks stand at the places of a text that have been reached,
before each character and at the end, and a shape moves marks from where its pieces start to where they
end. A text has a match if any mark is left after all places have been marked.
-/

namespace TokenAudit.Written

/-- For each place of a text, before each character and at the end, whether it is marked. -/
abbrev Marks := List Bool

namespace Marks

/-- Every place of a text. -/
def everywhere (text : List Char) : Marks :=
  true :: text.map fun _ => true

/-- The marked places of either. -/
def union (a b : Marks) : Marks :=
  List.zipWith (· || ·) a b

/-- Moves marks over the characters that pass a test. -/
def step (test : Char → Bool) (text : List Char) (marks : Marks) : Marks :=
  false :: List.zipWith (fun marked c => marked && test c) marks text

/-- Keeps the marks where a condition holds; `before` is the character before the first place. -/
def keep (look : Look) (before : Option Char) : List Char → Marks → Marks
  | c :: rest, marked :: marks =>
    (marked && look.holds before (some c)) :: keep look (some c) rest marks
  | [], [marked] => [marked && look.holds before none]
  | _, _ => []

/-- Moves marks over any number of characters that pass a test, and keeps them where they were; `reached`
says that one arrives at the first place. -/
def spread (test : Char → Bool) (reached : Bool) : List Char → Marks → Marks
  | c :: rest, marked :: marks =>
    let here := marked || reached
    here :: spread test (here && test c) rest marks
  | [], [marked] => [marked || reached]
  | _, _ => []

/-- Moves marks a number of times. Once nothing changes, nothing will. -/
def rounds (move : Marks → Marks) : Nat → Marks → Marks
  | 0, marks => marks
  | n + 1, marks =>
    let next := move marks
    if next == marks then marks else rounds move n next

end Marks

namespace Shape

mutual

/-- Where the pieces end that start at marked places. A piece without an upper bound needs no more rounds
than the text has places. -/
def advance (text : List Char) : Shape → Marks → Marks
  | .empty, marks => marks
  | .text chars, marks => chars.foldl (fun marks c => marks.step (· == c) text) marks
  | .one set, marks => marks.step (fun c => set.contains c.toNat) text
  | .look condition, marks => marks.keep condition none text
  | .repeated _ count body, marks =>
    let required := Marks.rounds (advance text body) count.least marks
    match count.most, body.set? with
    | none, some set => required.spread (fun c => set.contains c.toNat) false text
    | most, _ =>
      let more := (most.map (· - count.least)).getD (text.length + 1)
      Marks.rounds (fun marks => required.union (advance text body marks)) more required
  | .group _ body, marks => advance text body marks
  | .sequence parts, marks => advanceAll text parts marks
  | .choice branches, marks => advanceAny text branches marks

/-- Where the pieces of a sequence end. -/
def advanceAll (text : List Char) : List Shape → Marks → Marks
  | [], marks => marks
  | part :: rest, marks => advanceAll text rest (advance text part marks)

/-- Where the pieces of any of the shapes end. -/
def advanceAny (text : List Char) : List Shape → Marks → Marks
  | [], marks => marks.map fun _ => false
  | branch :: rest, marks => (advance text branch marks).union (advanceAny text rest marks)

end

/-- Whether a piece stands somewhere in a text. -/
def isMatch (shape : Shape) (text : List Char) : Bool :=
  (shape.advance text (.everywhere text)).any id

end Shape

end TokenAudit.Written
