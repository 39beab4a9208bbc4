import TokenAudit.Code.Declaration
import TokenAudit.Code.Unit
import TokenAudit.Pattern.Size
import TokenAudit.Text.Nesting
import TokenAudit.Text.Words

/-!
# Guard conditions

Code guards itself in two shapes: `require(condition)` states what must hold, and
`if (condition) … revert …` states what must not hold.
-/

namespace TokenAudit

open Text Unicode

/-- The shape of a guard. -/
inductive GuardKind
  /-- The condition must hold. -/
  | require
  /-- The condition must not hold. -/
  | ifRevert
  deriving Repr, BEq, DecidableEq

/-- The shape as it is shown. -/
def GuardKind.text : GuardKind → String
  | require => "require"
  | ifRevert => "if-revert"

/-- A condition found in a unit of code, with single spaces for whitespace. -/
structure Condition where
  /-- The text of the condition. -/
  content : List Char
  /-- The unit it was found in. -/
  source : Label
  /-- The shape of its guard. -/
  kind : GuardKind
  deriving Repr, BEq, DecidableEq

namespace Condition

/-- How deep the parentheses of a `require` may nest, its own included. -/
def requireDepth : Nat := 3

/-- The condition of a `require` that the text starts with. -/
def requireAt? (text : List Char) : Option (List Char) :=
  let word := "require".toList
  if word.isPrefixOf text then
    match (text.drop word.length).dropWhile isBlank with
    | '(' :: argument =>
      (enclosed parens (some requireDepth) argument).map fun (inner, _) => collapseChars inner
    | _ => none
  else none

/-- The conditions of every `require` in a text that stands after the character `before`. -/
def requiresFrom (before : Option Char) : List Char → List (List Char)
  | [] => []
  | c :: rest =>
    let later := requiresFrom (some c) rest
    if before.any isWord then later
    else (requireAt? (c :: rest)).toList ++ later

/-- The conditions of every `require` whose parentheses close and do not nest too deep. -/
def requires (code : List Char) : List (List Char) :=
  requiresFrom none code

/-- The blanks of ASCII, the vertical tab excepted. -/
def isAsciiBlank (c : Char) : Bool :=
  c == ' ' || c == '\t' || c == '\n' || c == '\x0c' || c == '\r'

/-- An `if` with its condition in parentheses. -/
structure IfHead where
  /-- The text of the condition. -/
  condition : List Char
  /-- The number of characters up to the closing parenthesis, which is included. -/
  length : Nat
  /-- The text after the closing parenthesis. -/
  after : List Char

/-- The `if` that the text starts with. -/
def ifAt? : List Char → Option IfHead
  | 'i' :: 'f' :: rest =>
    if rest.head?.any isNamePart then none
    else
      let (gap, opened) := splitWhile isAsciiBlank rest
      match opened with
      | '(' :: inside =>
        (enclosed parens none inside).map fun (inner, after) =>
          ⟨inner, 2 + gap.length + 1 + inner.length + 1, after⟩
      | _ => none
  | _ => none

/-- The statement or block at the start of the text: up to the closing brace if it starts with a
brace, up to the next semicolon otherwise. -/
def guarded? (text : List Char) : Option (List Char) :=
  match text.dropWhile isAsciiBlank with
  | [] => none
  | c :: rest =>
    if c == '\x7b' then (enclosed braces none rest).map (·.1)
    else if (c :: rest).contains ';' then some ((c :: rest).takeWhile (· != ';'))
    else none

/-- Whether what the `if` guards mentions `revert`. -/
def IfHead.reverts (head : IfHead) : Bool :=
  (guarded? head.after).any (hasInfix "revert".toList)

/-- The conditions of every `if` that guards a `revert`, in a text that stands after the character
`before` and whose first `skip` characters belong to an `if` that has been read. -/
def ifRevertsFrom (skip : Nat) (before : Option Char) : List Char → List (List Char)
  | [] => []
  | c :: rest =>
    match skip with
    | skip + 1 => ifRevertsFrom skip (some c) rest
    | 0 =>
      if before.any isNamePart then ifRevertsFrom 0 (some c) rest
      else
        match ifAt? (c :: rest) with
        | none => ifRevertsFrom 0 (some c) rest
        | some head =>
          let later := ifRevertsFrom (head.length - 1) (some c) rest
          if head.reverts then collapseChars head.condition :: later else later

/-- The conditions of every `if` that guards a `revert`. An `if` inside the condition of another is
not looked at; one inside the guarded block is. -/
def ifReverts (code : List Char) : List (List Char) :=
  ifRevertsFrom 0 none code

/-- The conditions of one unit, those of `require` first. -/
def ofUnit (unit : CodeUnit) : List Condition :=
  (requires unit.code).map (⟨·, unit.label, .require⟩) ++
    (ifReverts unit.code).map (⟨·, unit.label, .ifRevert⟩)

/-- The conditions of every unit, unit by unit. -/
def harvest (units : List CodeUnit) : List Condition :=
  units.flatMap ofUnit

end Condition

open Pattern in
/-- A declaration that binds a name to the length of the array `array`; the name is group 1. -/
def lengthBinding (array : String) : Pattern :=
  sequence [lit "uint", opt (lit "256"), blanks1, group 1 wordRun, blanks, lit "=", blanks,
    lit array, blanks, lit ".", blanks, lit "length", blanks, lit ";"]

/-- The names bound to the length of `array` in some unit, in order and without repetitions. -/
def lengthNames (units : List CodeUnit) (array : String) : List String :=
  let binding := lengthBinding array
  let bound := (units.filter fun unit => binding.finds unit.code).flatMap fun unit =>
    (binding.findAll unit.code).filterMap (·.group? 1)
  bound.foldl (fun names name => if names.contains name then names else names ++ [name]) []

end TokenAudit
