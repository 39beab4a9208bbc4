import TokenAudit.Code.Function
import TokenAudit.Text.Nesting
import TokenAudit.Text.Offset
import TokenAudit.Text.Words

/-!
# Function declarations

`declarations` lists the functions declared in a source text. A declaration is a header, which ends
in a semicolon or in the brace that opens the body; the body runs to the brace that closes it. A
function whose body never closes is left out. Headers inside a body count as well: the search
goes on right after each header.
-/

namespace TokenAudit

open Text Unicode

/-- Characters that can start a name. -/
def isNameStart (c : Char) : Bool :=
  isAsciiLetter c || c == '_' || c == '$'

/-- Characters that can continue a name. -/
def isNamePart (c : Char) : Bool :=
  isNameStart c || isAsciiDigit c

/-- The head of a declaration. -/
structure Header where
  /-- The declared name. -/
  name : List Char
  /-- The text between the parentheses. -/
  params : List Char
  /-- The text between the parameter list and the end of the header. -/
  modifiers : List Char
  /-- Whether a body follows. -/
  opensBody : Bool
  /-- The characters of the header, its last one included. -/
  chars : List Char
  /-- The text after the header. -/
  after : List Char
  deriving Repr, BEq, DecidableEq

/-- The keyword that starts a declaration. -/
def Header.keyword : List Char :=
  "function".toList

/-- The text split after its longest part whose characters satisfy `p`. -/
def splitWhile (p : Char → Bool) (text : List Char) : List Char × List Char :=
  (text.takeWhile p, text.dropWhile p)

/-- The header that the text starts with. -/
def Header.read? (text : List Char) : Option Header := do
  guard (keyword.isPrefixOf text)
  let (gap, named) := splitWhile isBlank (text.drop keyword.length)
  guard (!gap.isEmpty)
  guard (named.head?.any isNameStart)
  let (name, spaced) := splitWhile isNamePart named
  let (space, opened) := splitWhile isBlank spaced
  let inside ← match opened with
    | '(' :: inside => some inside
    | _ => none
  let (params, closed) :=
    splitWhile (fun c => !(c == ')' || c == '\x7b' || c == '\x7d' || c == ';')) inside
  let modified ← match closed with
    | ')' :: modified => some modified
    | _ => none
  let (modifiers, ended) := splitWhile (fun c => !(c == '\x7b' || c == ';')) modified
  match ended with
  | last :: after =>
    some {
      name, params, modifiers, after
      opensBody := last == '\x7b'
      chars := keyword ++ gap ++ name ++ space ++ '(' :: params ++ ')' :: modifiers ++ [last] }
  | [] => none

/-- The function whose header stands at byte `start`, unless its body never closes. -/
def Header.function? (header : Header) (start : Nat) : Option Function := do
  let chars ←
    if header.opensBody then
      (enclosed braces none header.after).map fun (inner, _) => header.chars ++ inner ++ ['\x7d']
    else some header.chars
  some {
    name := String.ofList header.name
    params := String.ofList (trimChars header.params)
    modifiers := String.ofList (trimChars header.modifiers)
    start
    stop := start + byteLength chars
    body := String.ofList chars
    isImplementation := header.opensBody
    parameters := .empty }

/-- The functions declared in a text that starts at byte `offset` after the character `before`, and
whose first `skip` characters belong to a header that has been read. -/
def declarationsFrom (skip : Nat) (before : Option Char) (offset : Nat) :
    List Char → List Function
  | [] => []
  | c :: rest =>
    let next := offset + c.utf8Size
    match skip with
    | skip + 1 => declarationsFrom skip (some c) next rest
    | 0 =>
      if before.any isWord then declarationsFrom 0 (some c) next rest
      else
        match Header.read? (c :: rest) with
        | none => declarationsFrom 0 (some c) next rest
        | some header =>
          (header.function? offset).toList ++
            declarationsFrom (header.chars.length - 1) (some c) next rest

/-- The functions declared in a source text, in the order of their headers. -/
def declarations (source : String) : List Function :=
  declarationsFrom 0 none 0 source.toList

end TokenAudit
