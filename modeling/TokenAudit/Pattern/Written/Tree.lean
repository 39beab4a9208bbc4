import TokenAudit.Unicode.Property

/-!
# Trees of written patterns

What a text says when it is read as a pattern, before it is asked what that means. A part carries the
settings that were in force where it stands.
-/

namespace TokenAudit.Written

open Unicode (CodeSet Query)

/-- Settings that a written pattern can switch on and off. -/
structure Flags where
  /-- Letters stand for all their cases. -/
  anyCase : Bool
  /-- The start and the end of a line count as those of the text. -/
  multiLine : Bool
  /-- The dot stands for line ends too. -/
  dotAll : Bool
  /-- Repetitions prefer fewer rounds, unless they are marked. -/
  swapGreed : Bool
  /-- Classes and letters reach beyond ASCII. -/
  unicode : Bool
  /-- A carriage return ends a line too. -/
  returns : Bool
  /-- Blanks and comments in the pattern mean nothing. -/
  verbose : Bool
  deriving Repr, BEq, DecidableEq

/-- The settings at the start of a pattern. -/
def Flags.start : Flags :=
  ⟨false, false, false, false, true, false, false⟩

/-- One setting changed by its letter. -/
def Flags.set? (flags : Flags) (letter : Char) (value : Bool) : Option Flags :=
  match letter with
  | 'i' => some { flags with anyCase := value }
  | 'm' => some { flags with multiLine := value }
  | 's' => some { flags with dotAll := value }
  | 'U' => some { flags with swapGreed := value }
  | 'u' => some { flags with unicode := value }
  | 'R' => some { flags with returns := value }
  | 'x' => some { flags with verbose := value }
  | _ => none

/-- A character that stands for itself. -/
structure Literal where
  /-- The character. -/
  char : Char
  /-- It is written as a byte, with two hexadecimal digits. -/
  isByte : Bool
  deriving Repr, BEq, DecidableEq

/-- The classes that have a letter. -/
inductive LetterClass
  /-- Decimal digits. -/
  | digit
  /-- Whitespace. -/
  | blank
  /-- Word characters. -/
  | word
  deriving Repr, BEq, DecidableEq

/-- A condition on a place. -/
inductive Anchor
  /-- The start of the text, or of a line. -/
  | lineStart
  /-- The end of the text, or of a line. -/
  | lineEnd
  /-- The start of the text. -/
  | textStart
  /-- The end of the text. -/
  | textEnd
  /-- A word starts or ends here. -/
  | word
  /-- No word starts or ends here. -/
  | notWord
  /-- A word starts here. -/
  | wordStart
  /-- A word ends here. -/
  | wordEnd
  /-- No word character stands before this place. -/
  | wordStartHalf
  /-- No word character stands after this place. -/
  | wordEndHalf
  deriving Repr, BEq, DecidableEq

/-- How two parts of a class are put together. -/
inductive ClassOp
  /-- What is in both. -/
  | inter
  /-- What is in the first alone. -/
  | diff
  /-- What is in exactly one. -/
  | symm
  deriving Repr, BEq, DecidableEq

/-- What stands inside the brackets of a class. -/
inductive ClassTree
  /-- Nothing. -/
  | empty
  /-- One character. -/
  | literal (char : Literal)
  /-- The characters from one to another. -/
  | range (first last : Literal)
  /-- A class of ASCII with a name. -/
  | ascii (negated : Bool) (set : CodeSet)
  /-- A class with a letter. -/
  | letter (negated : Bool) (kind : LetterClass)
  /-- The characters with a property. -/
  | property (negated : Bool) (query : Query)
  /-- A class in brackets of its own. -/
  | bracket (negated : Bool) (inside : ClassTree)
  /-- Several items one after the other. -/
  | union (items : List ClassTree)
  /-- Two parts with an operation between them. -/
  | combine (op : ClassOp) (left right : ClassTree)

/-- How often a part is repeated. -/
structure Count where
  /-- The least number of rounds. -/
  least : Nat
  /-- The greatest number of rounds. -/
  most : Option Nat
  deriving Repr, BEq, DecidableEq

/-- What a text says when it is read as a pattern. -/
inductive Tree
  /-- Nothing, or a change of settings. -/
  | empty
  /-- One character. -/
  | literal (flags : Flags) (char : Literal)
  /-- The dot. -/
  | dot (flags : Flags)
  /-- A condition on the place. -/
  | anchor (flags : Flags) (anchor : Anchor)
  /-- A class with a letter. -/
  | letter (flags : Flags) (negated : Bool) (kind : LetterClass)
  /-- The characters with a property. -/
  | property (flags : Flags) (negated : Bool) (query : Query)
  /-- A class in brackets. -/
  | bracket (flags : Flags) (negated : Bool) (inside : ClassTree)
  /-- A part repeated. -/
  | repeated (greedy : Bool) (count : Count) (body : Tree)
  /-- A part in parentheses, with a number if it is to be remembered. -/
  | group (index : Option Nat) (body : Tree)
  /-- Several parts one after the other. -/
  | sequence (parts : List Tree)
  /-- Several parts to choose from. -/
  | choice (branches : List Tree)

/-! ## Depth -/

mutual

/-- How deep brackets, lists of items and operations are nested. -/
def ClassTree.depth : ClassTree → Nat
  | bracket _ inside => inside.depth + 1
  | union items => depths items + 1
  | combine _ left right => max left.depth right.depth + 1
  | _ => 0

/-- The depth of the deepest item. -/
def ClassTree.depths : List ClassTree → Nat
  | [] => 0
  | item :: rest => max item.depth (depths rest)

end

mutual

/-- How deep classes, repetitions, groups, sequences and choices are nested. -/
def Tree.depth : Tree → Nat
  | bracket _ _ inside => inside.depth + 1
  | repeated _ _ body => body.depth + 1
  | group _ body => body.depth + 1
  | sequence parts => depths parts + 1
  | choice branches => depths branches + 1
  | _ => 0

/-- The depth of the deepest part. -/
def Tree.depths : List Tree → Nat
  | [] => 0
  | part :: rest => max part.depth (depths rest)

end

/-! ## Lists of parts -/

/-- The items of a class put together. -/
def ClassTree.ofItems : List ClassTree → ClassTree
  | [] => empty
  | [item] => item
  | items => union items

/-- Parts one after the other. -/
def Tree.ofParts : List Tree → Tree
  | [] => empty
  | [part] => part
  | parts => sequence parts

/-- Parts to choose from. -/
def Tree.ofBranches : List Tree → Tree
  | [] => empty
  | [branch] => branch
  | branches => choice branches

end TokenAudit.Written
