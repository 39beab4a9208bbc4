import TokenAudit.Code.Function
import TokenAudit.Code.Token
import TokenAudit.Text.Words

/-!
# Calls

`callNames` lists the names that a body seems to call. `resolveCalls` follows the calls from body to
body, depth first, and lists every function reached. Each name is followed once, so mutual
recursion comes to an end; a function whose body is the text being read is never listed from there.
-/

namespace TokenAudit

open Text

/-- Words of the language that can stand before a parenthesis without being a call, in lower case. -/
def statementWords : List String :=
  ["require", "assert", "revert", "emit", "new", "return", "returns", "if", "try", "iscontract",
   "continue", "break", "for", "while", "do", "else", "catch", "delete", "length"]

/-- Functions and objects that the language provides. -/
def builtinNames : List String :=
  ["gasleft", "msg", "block", "tx", "abi", "type", "this", "selfdestruct", "sha3", "keccak256",
   "ripemd160", "ecrecover", "addmod", "mulmod", "balance", "sub", "add"]

/-- Words that make the name after them a declaration or an operand rather than a call. -/
def declaringWords : List String :=
  ["function", "event", "modifier", "error", "emit", "new"]

/-- Whether a name after `before` is a candidate by its context. -/
def callContext : Option Token → Bool
  | some (.punct c) => c != '.'
  | some (.ident word) => !declaringWords.contains (String.ofList word)
  | _ => true

/-- Whether the name can be the name of a user's function. -/
def callable (name : String) : Bool :=
  !statementWords.contains (lower name) && !builtinNames.contains name

/-- The names in front of an opening parenthesis that can be calls, where `before` is the token in
front. -/
def callNamesFrom (before : Option Token) : List Token → List String
  | .ident word :: .punct '(' :: rest =>
    let name := String.ofList word
    let later := callNamesFrom (some (.punct '(')) rest
    if callContext before && callable name then name :: later else later
  | token :: rest => callNamesFrom (some token) rest
  | [] => []

/-- The names that a body seems to call, in order and with repetitions. Calls of members, as in
`x.f()`, are not among them. -/
def callNames (body : String) : List String :=
  callNamesFrom none (Token.scan body.toList)

/-- What following the calls of a body leads to. -/
inductive CallClosure
  /-- No call names a known function. -/
  | noCalls
  /-- All calls of known functions lead back to the body itself. -/
  | selfRecursive
  /-- The functions reached, in the order in which they were reached. -/
  | callees (functions : List Function)
  deriving Repr, BEq, DecidableEq

/-- The functions reached. -/
def CallClosure.reached : CallClosure → List Function
  | callees functions => functions
  | _ => []

/-- How far a search has come. -/
structure CallSearch where
  /-- The names already followed. -/
  visited : List String
  /-- The functions reached, latest first. -/
  found : List Function
  /-- Whether some call led back to the body being read. -/
  selfHit : Bool
  deriving Repr, BEq, DecidableEq

namespace CallSearch

/-- Nothing searched yet. -/
def start : CallSearch :=
  ⟨[], [], false⟩

/-- Records a function as reached. -/
def reach (search : CallSearch) (f : Function) : CallSearch :=
  { search with visited := f.name :: search.visited, found := f :: search.found }

/-- Follows every call of `body`. One level of `fuel` is used for each body on the way; every level
follows a name that no level above it follows, so one more than the number of functions is
enough. -/
def descend (functions : List Function) : Nat → CallSearch → String → CallSearch
  | 0, search, _ => search
  | fuel + 1, search, body =>
    (callNames body).foldl
      (fun search name =>
        if search.visited.contains name then search
        else
          (functions.filter (·.name == name)).foldl
            (fun search f =>
              if f.body == body then { search with selfHit := true }
              else descend functions fuel (search.reach f) f.body)
            search)
      search

end CallSearch

/-- Follows the calls of `body` among `functions`. -/
def resolveCalls (body : String) (functions : List Function) : CallClosure :=
  let search := CallSearch.descend functions (functions.length + 1) .start body
  if !search.found.isEmpty then .callees search.found.reverse
  else if search.selfHit then .selfRecursive
  else .noCalls

end TokenAudit
