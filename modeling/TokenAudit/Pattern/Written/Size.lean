import Std.Data.HashMap
import TokenAudit.Pattern.Written.Shape

/-!
# The size of a pattern

A search walks through a machine that reads bytes, one that runs forward and one that runs backward. A
pattern is refused when either of them would be too large. The machines are not built here; only their
states are counted, in the order in which they would be made.

A set of characters is made of sequences of byte ranges. Going forward, states that lead on alike are
shared as long as a table remembers them: a later state can take the place of an earlier one there, so
that it depends on the numbers of states how many are shared.
-/

namespace TokenAudit.Written

open Unicode (CodeSet)

/-! ## Sequences of bytes -/

/-- A range of bytes. -/
abbrev ByteRange := Nat × Nat

/-- The bytes of a code point. -/
def bytesOf (code : Nat) : List Nat :=
  if code < 0x80 then [code]
  else if code < 0x800 then [0xC0 + code / 0x40, 0x80 + code % 0x40]
  else if code < 0x10000 then [0xE0 + code / 0x1000, 0x80 + code / 0x40 % 0x40, 0x80 + code % 0x40]
  else
    [0xF0 + code / 0x40000, 0x80 + code / 0x1000 % 0x40, 0x80 + code / 0x40 % 0x40,
      0x80 + code % 0x40]

/-- Where a range must be cut for blocks of a size: after its first block, if it starts inside that, or
else before its last block, if it ends inside that. -/
def blockCut? (block first last : Nat) : Option Nat :=
  if first / block == last / block then none
  else if first % block != 0 then some ((first / block + 1) * block)
  else if last % block != block - 1 then some (last / block * block)
  else none

/-- Where a range must be cut for its bytes to be free of one another. -/
def cut? (first last : Nat) : Option Nat :=
  ((blockCut? 0x40 first last).orElse fun _ => blockCut? 0x1000 first last).orElse fun _ =>
    blockCut? 0x40000 first last

/-- The byte sequences of code points that are written with one number of bytes, in ascending order. -/
def pathsBetween (first last : Nat) : List (List ByteRange) :=
  match cut? first last with
  | none => [(bytesOf first).zip (bytesOf last)]
  | some cut =>
    if _h : first < cut ∧ cut ≤ last then pathsBetween first (cut - 1) ++ pathsBetween cut last
    else [(bytesOf first).zip (bytesOf last)]
termination_by last - first
decreasing_by all_goals omega

/-- The ranges of code points with one number of bytes each; surrogates have none. -/
def lengthBounds : List (Nat × Nat) :=
  [(0, 0x7F), (0x80, 0x7FF), (0x800, 0xD7FF), (0xE000, 0xFFFF), (0x10000, 0x10FFFF)]

/-- The byte sequences of a set, in ascending order. -/
def pathsOf (set : CodeSet) : List (List ByteRange) :=
  set.ranges.toList.flatMap fun (first, last) =>
    lengthBounds.flatMap fun (low, high) =>
      let first := max first low
      let last := min last high
      if first ≤ last then
        if last < 0x80 then [[(first, last)]] else pathsBetween first last
      else []

/-! ## Machines -/

/-- How much of a machine has been made. -/
structure Machine where
  /-- The number of its states. -/
  states : Nat
  /-- What its states take in bytes beyond a fixed amount for each. -/
  bytes : Nat
  deriving Repr, BEq, DecidableEq

namespace Machine

/-- The greatest size of a machine. -/
def limit : Nat := 10485760

/-- Whether a machine is too large. -/
def isFull (m : Machine) : Bool :=
  limit < 32 * m.states + m.bytes

/-- More states. -/
def add (m : Machine) (states bytes : Nat) : Machine :=
  ⟨m.states + states, m.bytes + bytes⟩

/-- Makes a part a number of times, but no more once the machine is too large. -/
def rounds (make : Machine → Machine) : Nat → Machine → Machine
  | 0, m => m
  | n + 1, m => if m.isFull then m else rounds make n (make m)

/-- Mixes a number into a hash. -/
def mix (hash : UInt64) (n : Nat) : UInt64 :=
  (hash ^^^ n.toUInt64) * 1099511628211

/-- The hash of no number at all. -/
def hashStart : UInt64 := 14695981039346656037

/-! ## Sets going forward -/

/-- A range of bytes and the state it leads to. -/
abbrev Arc := ByteRange × Nat

/-- A machine and the states that it remembers, by a hash of what leads on from them. -/
structure Sharing where
  /-- The machine. -/
  machine : Machine
  /-- The remembered states. -/
  table : Std.HashMap Nat (List Arc × Nat)

/-- The place of a state in the table. -/
def arcsPlace (arcs : List Arc) : Nat :=
  (arcs.foldl (fun hash ((first, last), next) => mix (mix (mix hash first) last) next)
    hashStart % 10000).toNat

/-- The remembered state that leads on as given. -/
def Sharing.known? (sharing : Sharing) (arcs : List Arc) : Option Nat :=
  (sharing.table[arcsPlace arcs]?).bind fun (known, state) =>
    if known == arcs then some state else none

/-- A state that leads on as given, remembered or new. -/
def Sharing.state (sharing : Sharing) (arcs : List Arc) : Nat × Sharing :=
  match sharing.known? arcs with
  | some state => (state, sharing)
  | none =>
    let ⟨machine, table⟩ := sharing
    (machine.states,
      ⟨machine.add 1 (8 * arcs.length), table.insert (arcsPlace arcs) (arcs, machine.states)⟩)

/-- Neighbouring sequences that start with the same range are put together. -/
def groupPaths : List (List ByteRange) → List (ByteRange × List (List ByteRange))
  | [] => []
  | [] :: rest => groupPaths rest
  | (range :: path) :: rest =>
    match groupPaths rest with
    | (next, paths) :: groups =>
      if next == range then (range, path :: paths) :: groups
      else (range, [path]) :: (next, paths) :: groups
    | [] => [(range, [path])]

/-- The state from which some sequences lead to `target`. The fuel bounds their length. -/
def Sharing.walk (target : Nat) : Nat → List (List ByteRange) → Sharing → Nat × Sharing
  | 0, _, sharing => (target, sharing)
  | fuel + 1, paths, sharing =>
    let (arcs, sharing) := (groupPaths paths).foldl (fun (arcs, sharing) (range, rest) =>
      if rest.all List.isEmpty then ((range, target) :: arcs, sharing)
      else
        let (next, sharing) := Sharing.walk target fuel rest sharing
        ((range, next) :: arcs, sharing)) ([], sharing)
    sharing.state arcs.reverse

/-- The states of a set going forward. -/
def addForward (paths : List (List ByteRange)) (m : Machine) : Machine :=
  (Sharing.walk m.states 5 paths ⟨m.add 1 0, {}⟩).2.machine

/-! ## Sets going backward -/

/-- A machine and its remembered states, by the state that they lead to and their range. -/
structure Suffixes where
  /-- The machine. -/
  machine : Machine
  /-- The remembered states. -/
  table : Std.HashMap Nat ((Nat × ByteRange) × Nat)

/-- The place of a state in the table. -/
def suffixPlace (next : Nat) (range : ByteRange) : Nat :=
  (mix (mix (mix hashStart next) range.1) range.2 % 1000).toNat

/-- The remembered state that leads by a range to another. -/
def Suffixes.known? (suffixes : Suffixes) (next : Nat) (range : ByteRange) : Option Nat :=
  (suffixes.table[suffixPlace next range]?).bind fun (known, state) =>
    if known == (next, range) then some state else none

/-- The state that leads by a range to another, remembered or new. -/
def Suffixes.state (suffixes : Suffixes) (next : Nat) (range : ByteRange) : Nat × Suffixes :=
  match suffixes.known? next range with
  | some state => (state, suffixes)
  | none =>
    let ⟨machine, table⟩ := suffixes
    (machine.states,
      ⟨machine.add 1 0, table.insert (suffixPlace next range) ((next, range), machine.states)⟩)

/-- The states of a set going backward. -/
def addBackward (paths : List (List ByteRange)) (m : Machine) : Machine :=
  let target := m.states + 1
  (paths.foldl (fun suffixes path =>
    (path.foldl (fun (next, suffixes) range => Suffixes.state suffixes next range)
      (target, suffixes)).2) (⟨m.add 2 (4 * paths.length), {}⟩ : Suffixes)).machine

/-! ## Choices between texts -/

/-- The words that end here part the other words, and the texts of each part follow one another. A word
that ends here again right away does not count. -/
def wordParts (words : List (List Nat)) : List (List (List Nat)) :=
  let (closed, current) := words.foldl (fun (closed, current) word =>
    match word with
    | [] =>
      if current.isEmpty && closed.all List.isEmpty && !closed.isEmpty then (closed, current)
      else (current :: closed, [])
    | word => (closed, word :: current)) (([], []) : List (List (List Nat)) × List (List Nat))
  ((current :: closed).map List.reverse).reverse

/-- The words of a part by their first byte. -/
def byFirst (words : List (List Nat)) : List (List (List Nat)) :=
  let firsts := (words.filterMap List.head?).eraseDups
  firsts.map fun first =>
    words.filterMap fun
      | byte :: rest => if byte == first then some rest else none
      | [] => none

/-- The states for a choice between words that share what they start with. The fuel bounds their
length. -/
def addWords : Nat → List (List Nat) → Machine → Machine
  | 0, _, m => m
  | fuel + 1, words, m =>
    let parts := (wordParts words).map byFirst
    let m := parts.foldl (fun m nexts =>
      let m := nexts.foldl (fun m rest =>
        if rest.all List.isEmpty then m else addWords fuel rest m) m
      match nexts.length with
      | 0 => m
      | 1 => m.add 1 0
      | n => m.add 1 (8 * n)) m
    let filled := (parts.filter fun nexts => !nexts.isEmpty).length
    m.add 1 (4 * (filled + parts.length - 1))

end Machine

/-! ## Shapes -/

namespace Shape

/-- The bytes of a text. -/
def textBytes (chars : List Char) : List Nat :=
  chars.flatMap fun c => bytesOf c.toNat

/-- The texts of a list of shapes that are all texts. -/
def texts? (shapes : List Shape) : Option (List (List Char)) :=
  shapes.mapM fun
    | text chars => some chars
    | _ => none

mutual

/-- The states of a shape. A group has some of its own going forward only. -/
def make (backward : Bool) : Shape → Machine → Machine
  | .empty, m => m.add 1 0
  | .text chars, m => m.add (Text.byteLength chars) 0
  | .one set, m =>
    if set.isAscii then m.add 2 (8 * set.ranges.size)
    else if backward then Machine.addBackward (pathsOf set) m
    else Machine.addForward (pathsOf set) m
  | .look _, m => m.add 1 0
  | .group _ body, m =>
    if backward then make backward body m else (make backward body (m.add 1 0)).add 1 0
  | .repeated _ count body, m =>
    match count.least, count.most with
    | 0, some 1 => (make backward body (m.add 1 0)).add 1 8
    | 0, none =>
      if body.least?.any (0 < ·) then make backward body (m.add 1 8)
      else (make backward body m).add 3 16
    | n, none => (Machine.rounds (make backward body) n m).add 1 8
    | n, some most =>
      let required := if n == 0 then m.add 1 0 else Machine.rounds (make backward body) n m
      if n == most then required
      else
        Machine.rounds (fun m => make backward body (m.add 1 8)) (most - n) (required.add 1 0)
  | .sequence parts, m => makeAll backward parts m
  | .choice branches, m =>
    match texts? branches with
    | some texts =>
      let words := texts.map fun chars =>
        if backward then (textBytes chars).reverse else textBytes chars
      Machine.addWords (words.foldl (fun n word => max n word.length) 0 + 1) words (m.add 1 0)
    | none => makeBranches backward 0 branches (m.add 0 (4 * branches.length))

/-- The states of a sequence, which is made from its end going backward. -/
def makeAll (backward : Bool) : List Shape → Machine → Machine
  | [], m => m
  | part :: rest, m =>
    if backward then make backward part (makeAll backward rest m)
    else makeAll backward rest (make backward part m)

/-- The states of the branches of a choice. The states that branch and join are made after the second of
them. -/
def makeBranches (backward : Bool) (made : Nat) : List Shape → Machine → Machine
  | [], m => m
  | branch :: rest, m =>
    let m := make backward branch m
    makeBranches backward (made + 1) rest (if made == 1 then m.add 2 0 else m)

end

mutual

/-- Whether a piece can stand at the start of the text only. -/
def startsText : Shape → Bool
  | .look condition => condition == .textStart
  | .repeated _ count body => 0 < count.least && body.startsText
  | .group _ body => body.startsText
  | .sequence parts => firstStartsText parts
  | .choice branches => allStartText branches
  | _ => false

/-- Whether a sequence can stand at the start of the text only: one of its parts does, after parts that
are empty. -/
def firstStartsText : List Shape → Bool
  | [] => false
  | part :: rest => part.startsText || (part.isEmptyOnly && firstStartsText rest)

/-- Whether all shapes can stand at the start of the text only. -/
def allStartText : List Shape → Bool
  | [] => true
  | shape :: rest => shape.startsText && allStartText rest

end

mutual

/-- Whether a piece can stand at the end of the text only. -/
def endsText : Shape → Bool
  | .look condition => condition == .textEnd
  | .repeated _ count body => 0 < count.least && body.endsText
  | .group _ body => body.endsText
  | .sequence parts => lastEndsText parts
  | .choice branches => allEndText branches
  | _ => false

/-- Whether a sequence can stand at the end of the text only: one of its parts does, before parts that
are empty. -/
def lastEndsText : List Shape → Bool
  | [] => false
  | part :: rest => lastEndsText rest || (areEmptyOnly rest && part.endsText)

/-- Whether all shapes can stand at the end of the text only. -/
def allEndText : List Shape → Bool
  | [] => true
  | shape :: rest => shape.endsText && allEndText rest

end

/-- The states in front of a shape, which skip bytes unless it is bound to an end of the text. -/
def lead (bound : Bool) : Machine :=
  if bound then ⟨1, 0⟩ else ⟨3, 16⟩

/-- The machine that runs forward. -/
def forward (shape : Shape) : Machine :=
  (make false shape ((lead shape.startsText).add 1 0)).add 2 0

/-- The machine that runs backward. -/
def backward (shape : Shape) : Machine :=
  (make true shape (lead shape.endsText)).add 1 0

/-- Whether both machines of a shape are small enough. -/
def fits (shape : Shape) : Bool :=
  !shape.forward.isFull && !shape.backward.isFull

end Shape

end TokenAudit.Written
