import TokenAudit.Pattern.Basic
import TokenAudit.Text.Offset

/-!
# Matching

`Pattern.ends p c` lists every place where a piece described by `p` can end when it starts at the
cursor `c`, best first. Of several ways to reach one place only the best is kept, so the list is
never longer than the text.

`Pattern.find?` takes the leftmost start that has an end, and there the best end.
-/

namespace TokenAudit

/-- A place in a text. -/
structure Cursor where
  /-- The character before the place; `none` at the start of the text. -/
  before : Option Char
  /-- The text after the place. -/
  rest : List Char
  /-- The byte offset of the place. -/
  offset : Nat
  /-- The remembered pieces, latest first. -/
  groups : List (Nat × List Char)
  deriving Repr, BEq, DecidableEq, Inhabited

namespace Cursor

/-- The start of a text. -/
def start (text : List Char) : Cursor :=
  ⟨none, text, 0, []⟩

/-- The place one character further on, after `c` and before `rest`. -/
def step (cursor : Cursor) (c : Char) (rest : List Char) : Cursor :=
  ⟨some c, rest, cursor.offset + c.utf8Size, cursor.groups⟩

/-- The place after the given characters, if they stand here. -/
def skipText? : List Char → Cursor → Option Cursor
  | [], cursor => some cursor
  | c :: chars, cursor =>
    match cursor.rest with
    | [] => none
    | x :: rest => if x == c then skipText? chars (cursor.step x rest) else none

/-- The place after the given characters, if they stand here up to case. -/
def skipTextAnyCase? : List Char → Cursor → Option Cursor
  | [], cursor => some cursor
  | c :: chars, cursor =>
    match cursor.rest with
    | [] => none
    | x :: rest =>
      if x == c || Unicode.foldCase x == Unicode.foldCase c then
        skipTextAnyCase? chars (cursor.step x rest)
      else none

/-- The places reached by skipping characters of `set`, the furthest first, put in front of
`nearer`. -/
def runEnds (set : CharSet) (before : Option Char) (offset : Nat)
    (groups : List (Nat × List Char)) (nearer : List Cursor) : List Char → List Cursor
  | [] => ⟨before, [], offset, groups⟩ :: nearer
  | c :: rest =>
    if set.contains c then
      runEnds set (some c) (offset + c.utf8Size) groups
        (⟨before, c :: rest, offset, groups⟩ :: nearer) rest
    else ⟨before, c :: rest, offset, groups⟩ :: nearer

/-- The places without the second and later visits to one offset. -/
def distinctFrom (seen : List Nat) : List Cursor → List Cursor
  | [] => []
  | c :: rest =>
    if seen.contains c.offset then distinctFrom seen rest
    else c :: distinctFrom (c.offset :: seen) rest

/-- The places without the second and later visits to one offset. -/
def distinct : List Cursor → List Cursor
  | [] => []
  | [c] => [c]
  | places => distinctFrom [] places

/-- The text between two places. -/
def between (first last : Cursor) : List Char :=
  Text.takeBytes (last.offset - first.offset) first.rest

/-- The place `last`, where the piece since `first` is remembered under `index`. -/
def remember (first last : Cursor) (index : Nat) : Cursor :=
  { last with groups := (index, first.between last) :: last.groups }

/-- The piece remembered last under `index`. -/
def group? (cursor : Cursor) (index : Nat) : Option (List Char) :=
  cursor.groups.lookup index

end Cursor

/-- What a repetition has done so far: the offsets it has been at, and the places it has found,
latest first. -/
structure Rounds where
  /-- The offsets already visited. -/
  seen : List Nat
  /-- The places found, latest first. -/
  found : List Cursor

/-- Visits `cursor` and every place that further rounds of `next` lead to. A greedy repetition finds
a place after the places beyond it, a lazy one before them. Every round moves on, so `fuel` may be
the number of characters left. -/
def Rounds.visit (next : Cursor → List Cursor) (greedy : Bool) :
    Nat → Rounds → Cursor → Rounds
  | 0, rounds, cursor =>
    if rounds.seen.contains cursor.offset then rounds
    else ⟨cursor.offset :: rounds.seen, cursor :: rounds.found⟩
  | fuel + 1, rounds, cursor =>
    if rounds.seen.contains cursor.offset then rounds
    else
      let further := (next cursor).filter (cursor.offset < ·.offset)
      if greedy then
        let after := further.foldl (visit next greedy fuel) ⟨cursor.offset :: rounds.seen, rounds.found⟩
        { after with found := cursor :: after.found }
      else
        further.foldl (visit next greedy fuel) ⟨cursor.offset :: rounds.seen, cursor :: rounds.found⟩

namespace Pattern

/-- The places where a piece that starts at the cursor can end, best first. -/
def ends : Pattern → Cursor → List Cursor
  | empty, cursor => [cursor]
  | text chars, cursor => (cursor.skipText? chars).toList
  | textAnyCase chars, cursor => (cursor.skipTextAnyCase? chars).toList
  | one set, cursor =>
    match cursor.rest with
    | [] => []
    | c :: rest => if set.contains c then [cursor.step c rest] else []
  | run greedy set, cursor =>
    let places := Cursor.runEnds set cursor.before cursor.offset cursor.groups [] cursor.rest
    if greedy then places else places.reverse
  | seq first second, cursor => Cursor.distinct ((first.ends cursor).flatMap second.ends)
  | either first second, cursor => Cursor.distinct (first.ends cursor ++ second.ends cursor)
  | star greedy body, cursor =>
    (Rounds.visit body.ends greedy cursor.rest.length ⟨[], []⟩ cursor).found.reverse
  | group index body, cursor => (body.ends cursor).map fun last => cursor.remember last index
  | edge condition, cursor =>
    if condition.holds cursor.before cursor.rest.head? then [cursor] else []

/-- A piece of text that matches a pattern. -/
structure Found where
  /-- The byte offset where the piece starts. -/
  start : Nat
  /-- The place where it ends. -/
  last : Cursor

/-- The byte offset where the piece ends. -/
def Found.stop (found : Found) : Nat :=
  found.last.offset

/-- The text remembered under `index` inside the piece. -/
def Found.group? (found : Found) (index : Nat) : Option String :=
  (found.last.group? index).map String.ofList

/-- The first match at or after the place before `text`, which has byte offset `offset` and the
character `before` in front of it. -/
def findFrom (p : Pattern) (before : Option Char) (offset : Nat) : List Char → Option Found
  | [] => ((p.ends ⟨before, [], offset, []⟩).head?).map fun last => ⟨offset, last⟩
  | c :: rest =>
    match p.ends ⟨before, c :: rest, offset, []⟩ with
    | last :: _ => some ⟨offset, last⟩
    | [] => findFrom p (some c) (offset + c.utf8Size) rest

/-- The leftmost match, and the best of those that start there. -/
def find? (p : Pattern) (text : List Char) : Option Found :=
  p.findFrom none 0 text

/-- Whether some piece of the text matches. -/
def isMatch (p : Pattern) (text : List Char) : Bool :=
  (p.find? text).isSome

/-- The matches from a cursor on, each search starting where the last match ended, or one character
after an empty match. -/
def findAllFrom (p : Pattern) : Nat → Cursor → List Found
  | 0, _ => []
  | fuel + 1, cursor =>
    match p.findFrom cursor.before cursor.offset cursor.rest with
    | none => []
    | some found =>
      let resume : Option Cursor :=
        if found.start < found.last.offset then some { found.last with groups := [] }
        else
          match found.last.rest with
          | [] => none
          | c :: rest => some { found.last.step c rest with groups := [] }
      match resume with
      | none => [found]
      | some place => found :: findAllFrom p fuel place

/-- The matches of the text from left to right, none overlapping another. -/
def findAll (p : Pattern) (text : List Char) : List Found :=
  p.findAllFrom (text.length + 1) (Cursor.start text)

end Pattern

end TokenAudit
