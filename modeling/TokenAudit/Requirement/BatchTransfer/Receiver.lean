import TokenAudit.Requirement.BatchTransfer.Rules
import TokenAudit.Text.Comment

/-!
# The recipient of a batch transfer

A recipient with code must be asked whether it takes the tokens, and its answer must be checked.
The rules here read code whose comments are stripped and whose whitespace is collapsed.
-/

namespace TokenAudit.BatchTransfer

open Pattern

/-- The length of the recipient's code. -/
def codeLength (recipient : String) : Pattern :=
  sequence [lit recipient, blanks, lit ".", blanks, lit "code", blanks, lit ".", blanks,
    lit "length"]

/-- Branches on whether the recipient has code. -/
def codeLengthGuards (recipient : String) : List Pattern :=
  [sequence [lit "if", blanks, lit "(", blanks, codeLength recipient, blanks, equalitySign, blanks,
     lit "0", blanks, lit ")"],
   sequence [lit "if", blanks, lit "(", blanks, codeLength recipient, blanks, lit ">", blanks,
     lit "0", blanks, lit ")"]]

/-- The start of a `require` that tells recipients with code from those without and compares the
latter with zero. -/
def ternaryHead (recipient : String) : List Pattern :=
  [lit "require", blanks, lit "(", blanks, codeLength recipient, blanks, lit "==", blanks, lit "0",
   blanks, lit "?", blanks, lit recipient, blanks, lit "!=", blanks]

/-- The `require` that tells recipients with code from those without. -/
def ternaryGuards (recipient : String) : List Pattern :=
  [sequence (ternaryHead recipient ++
     [lit "address", blanks, lit "(", blanks, lit "0", opt (lit "x0"), blanks, lit ")"]),
   sequence (ternaryHead recipient ++ [lit "0x0", wordEdge])]

/-- A branch on whether the recipient is a contract. -/
def isContractGuard (recipient : String) : Pattern :=
  sequence [lit "if", blanks, lit "(", blanks, lit recipient, blanks, lit ".", blanks,
    lit "isContract", blanks, lit "(", blanks, lit ")", blanks, lit ")"]

/-- The name of the function that recipients answer with. -/
def hook : String :=
  "onERC1155BatchReceived"

/-- Call options in braces, such as a gas limit. -/
def callOptions : Pattern :=
  opt (sequence [blanks, lit "\x7b", many (.noneOf ['\x7d']), lit "\x7d"])

/-- The member access that calls the hook, up to its arguments. -/
def hookCall : Pattern :=
  sequence [lit ("." ++ hook), callOptions]

/-- A variable that holds the caller; its name is group 1. -/
def callerVariable : Pattern :=
  sequence [lit "address", blanks1, group 1 wordRun, blanks, lit "=", blanks,
    anyOf [lit "msg.sender", lit "_msgSender()"], blanks, lit ";"]

/-- A parameter of the given name, or any name with a leading underscore. -/
def argument : Option String → Pattern
  | some name => lit name
  | none => sequence [lit "_", wordRun]

/-- The hook called with exactly the expected arguments. -/
def exactCall (params : Params) (caller : Option String) : Pattern :=
  let separator := sequence [blanks, lit ",", blanks]
  let arguments := [lit (caller.getD "operator"), argument params.sender, argument params.ids,
    argument params.amounts, argument params.data]
  sequence ([hookCall, blanks, lit "(", blanks] ++ arguments.intersperse separator ++
    [blanks, lit ")"])

/-- An argument in which parentheses may stand one level deep. -/
def nestedArgument : Pattern :=
  plus (anyOf [one (.noneOf [',', '(', ')']),
    sequence [lit "(", many (.noneOf ['(', ')']), lit ")"]])

/-- The hook called with five arguments in which parentheses may stand one level deep. -/
def nestedCall : Pattern :=
  sequence [hookCall, blanks, lit "(", blanks,
    times 4 (sequence [nestedArgument, lit ",", blanks]), nestedArgument, lit ")"]

/-- The hook called with at least five arguments, by the commas. -/
def countedCall : Pattern :=
  sequence [hookCall, blanks, lit "(", blanks,
    times 4 (sequence [many1 (.noneOf [',', ')']), blanks, lit ",", blanks]),
    many1 (.noneOf [')']), blanks, lit ")"]

/-- How many bytes around a call are searched for types. -/
def typeWindow : Nat := 100

/-- The text around a piece that starts and stops at the given offsets, widened by the type window
and to whole characters. -/
def surroundings (code : List Char) (start stop : Nat) : List Char :=
  let first := Text.floorBoundary code (start - typeWindow)
  let last := Text.ceilBoundary code (stop + typeWindow)
  Text.takeBytes (last - first) ((Text.dropBytes? first code).getD [])

/-- Whether the types of the hook's arguments are named near the first call. -/
def typesNearby (code : List Char) : Bool :=
  (nestedCall.find? code).any fun found =>
    let near := surroundings code found.start found.stop
    Text.hasInfix "address".toList near && Text.hasInfix "uint256[]".toList near &&
      Text.hasInfix "bytes".toList near

/-- Whether the hook is called with arguments that are recognised: by their names, by types named
nearby, or by their number. -/
def argumentsRecognised (code : List Char) (params : Params) (caller : Option String) : Bool :=
  (exactCall params caller).finds code || typesNearby code || countedCall.isMatch code

/-- The hook called inside a guard. -/
def inlineCheck : Pattern :=
  sequence [anyOf [lit "require", lit "if"], blanks, lit "(", few (.noneOf [')']),
    opt (sequence [one (.union (.range 'a' 'z') (.union (.range 'A' 'Z') (.oneOf ['_']))),
      many (.union .word (.oneOf ['.'])), blanks, lit "(", blanks, many (.noneOf [')']), blanks,
      lit ")", blanks, lit "."]),
    lit hook, blanks, lit "(", many (.noneOf [')']), blanks, lit ")", many (.noneOf [')']), lit ")"]

/-- The answer kept in a variable; its name is group 1. -/
def keptAnswer : Pattern :=
  sequence [lit "bytes4", blanks1, group 1 wordRun, blanks, lit "=", blanks, few (.noneOf [';']),
    hookCall, lit "(", many1 (.noneOf [')']), lit ")", blanks, lit ";"]

/-- A guard that compares the variable `name`. -/
def answerCompared (name : String) : Pattern :=
  sequence [anyOf [lit "require", lit "if"], blanks, lit "(", blanks, lit name, blanks,
    anyOf [lit "==", lit "!="], blanks, many1 (.noneOf [')']), blanks, lit ")"]

/-- The answer bound by a `try` statement; its name is group 1. -/
def triedAnswer : Pattern :=
  sequence [lit "try", blanks1, many (.noneOf ['.']), hookCall, lit "(", many1 (.noneOf [')']),
    lit ")", blanks1, lit "returns", blanks, lit "(", blanks, lit "bytes4", blanks1,
    group 1 wordRun, blanks, lit ")"]

/-- A guard that mentions `name`. -/
def answerMentioned (name : String) : Pattern :=
  sequence [anyOf [lit "require", lit "if"], blanks, lit "(", blanks, few (.noneOf [')']),
    lit name, many (.noneOf [')']), lit ")"]

/-- Whether a unit calls the hook and checks the answer. Without a check for code elsewhere the unit
must check that the recipient is a contract itself. -/
def answerChecked (code : List Char) (params : Params) (isContract : Bool) : Bool :=
  let caller := (callerVariable.find? code).bind (·.group? 1)
  let condensed := Text.condenseChars code
  let contract := isContract ||
    params.recipient.any fun recipient => (isContractGuard recipient).finds condensed
  let bound (binding : Pattern) (guardOn : String → Pattern) :=
    ((binding.find? condensed).bind (·.group? 1)).any fun name => (guardOn name).finds condensed
  contract &&
    ((argumentsRecognised condensed params caller && inlineCheck.isMatch condensed) ||
      bound keptAnswer answerCompared || bound triedAnswer answerMentioned)

end TokenAudit.BatchTransfer
