import TokenAudit.Pattern.CharSet

/-!
# Text patterns

A pattern describes pieces of text. Patterns are ordered: of two ways to match, the one that comes
first wins, so `either p q` prefers `p`, and a greedy repetition prefers more rounds.

Rules splice identifiers of the code under audit into patterns. A spliced identifier is a `text`
node, so every character of it stands for itself.
-/

namespace TokenAudit

/-- A condition on a place between two characters. -/
inductive Edge
  /-- The start of the text. -/
  | textStart
  /-- The end of the text. -/
  | textEnd
  /-- A word starts or ends here. -/
  | word
  deriving Repr, BEq, DecidableEq

/-- Whether a neighbour is a word character; the ends of the text are not. -/
def Edge.wordSide (neighbour : Option Char) : Bool :=
  neighbour.any Unicode.isWord

/-- Whether the condition holds between the characters `before` and `after`. -/
def Edge.holds (edge : Edge) (before after : Option Char) : Bool :=
  match edge with
  | textStart => before.isNone
  | textEnd => after.isNone
  | word => wordSide before != wordSide after

/-- A description of pieces of text. -/
inductive Pattern
  /-- The empty piece. -/
  | empty
  /-- Exactly these characters. -/
  | text (chars : List Char)
  /-- These characters in any mixture of cases. -/
  | textAnyCase (chars : List Char)
  /-- One character of the set. -/
  | one (set : CharSet)
  /-- Any number of characters of the set. -/
  | run (greedy : Bool) (set : CharSet)
  /-- One piece after the other. -/
  | seq (first second : Pattern)
  /-- A piece of either kind. -/
  | either (first second : Pattern)
  /-- Any number of rounds of `body`. -/
  | star (greedy : Bool) (body : Pattern)
  /-- A piece that is remembered under a number. -/
  | group (index : Nat) (body : Pattern)
  /-- The empty piece, at a place where the condition holds. -/
  | edge (condition : Edge)
  deriving Repr, BEq, DecidableEq, Inhabited

namespace Pattern

instance : Append Pattern := ⟨seq⟩

/-- Exactly the characters of `s`. -/
def lit (s : String) : Pattern :=
  text s.toList

/-- The characters of `s` in any mixture of cases. -/
def litAnyCase (s : String) : Pattern :=
  textAnyCase s.toList

/-- The patterns one after the other. -/
def sequence : List Pattern → Pattern
  | [] => empty
  | p :: rest => rest.foldl seq p

/-- A piece of the first pattern that fits. -/
def anyOf : List Pattern → Pattern
  | [] => one CharSet.none
  | [p] => p
  | p :: rest => either p (anyOf rest)

/-- One piece of `p`, or none. -/
def opt (p : Pattern) : Pattern :=
  either p empty

/-- At least one round of `p`. -/
def plus (p : Pattern) : Pattern :=
  p ++ star true p

/-- Exactly `n` rounds of `p`. -/
def times (n : Nat) (p : Pattern) : Pattern :=
  sequence (List.replicate n p)

/-- Any number of blanks. -/
def blanks : Pattern :=
  run true .blank

/-- At least one blank. -/
def blanks1 : Pattern :=
  one .blank ++ blanks

/-- Any number of characters of the set, as many as can be. -/
def many (set : CharSet) : Pattern :=
  run true set

/-- At least one character of the set, as many as can be. -/
def many1 (set : CharSet) : Pattern :=
  one set ++ run true set

/-- Any number of characters of the set, as few as will do. -/
def few (set : CharSet) : Pattern :=
  run false set

/-- A word: at least one word character. -/
def wordRun : Pattern :=
  many1 .word

/-- A string literal. -/
def quoted : Pattern :=
  sequence [lit "\"", many (.noneOf ['"']), lit "\""]

/-- An equality or an inequality sign. -/
def equalitySign : Pattern :=
  sequence [one (.oneOf ['!', '=']), lit "="]

/-- A comparison with blanks around its sign. -/
def comparing (left : Pattern) (sign : String) (right : Pattern) : Pattern :=
  sequence [left, blanks, lit sign, blanks, right]

/-- A place where a word starts or ends. -/
def wordEdge : Pattern :=
  edge .word

end Pattern

end TokenAudit
