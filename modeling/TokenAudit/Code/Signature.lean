import TokenAudit.Code.Function
import TokenAudit.Hash.Hex
import TokenAudit.Hash.Keccak
import TokenAudit.Text.Nesting
import TokenAudit.Text.Words

/-!
# Signatures

A signature is reduced to `name(type,type,…)`: parameter names, data locations and whitespace do not
matter, and `uint` is `uint256`. Two signatures with one reduced form have one hash and one
selector.
-/

namespace TokenAudit

open Text Unicode

namespace Signature

/-- The text with every maximal run of word characters replaced. `word` is the run being read, last
character first. -/
def mapWordsFrom (replace : List Char → List Char) (word : List Char) : List Char → List Char
  | [] => if word.isEmpty then [] else replace word.reverse
  | c :: rest =>
    if isWord c then mapWordsFrom replace (c :: word) rest
    else if word.isEmpty then c :: mapWordsFrom replace [] rest
    else replace word.reverse ++ c :: mapWordsFrom replace [] rest

/-- The text with every maximal run of word characters replaced. -/
def mapWords (replace : List Char → List Char) (text : List Char) : List Char :=
  mapWordsFrom replace [] text

/-- Words that say where a parameter is stored, or that it takes payments; they are no part of its
type. -/
def locationWords : List (List Char) :=
  ["memory".toList, "calldata".toList, "storage".toList, "payable".toList]

/-- The text with every location word replaced by a space. -/
def dropLocations (text : List Char) : List Char :=
  mapWords (fun word => if locationWords.contains word then [' '] else word) text

/-- The text with the word `uint` replaced by `uint256`. -/
def widenUint (text : List Char) : List Char :=
  mapWords (fun word => if word == "uint".toList then "uint256".toList else word) text

/-- The reduced type of one parameter: all words but the last, or the only one. -/
def paramType (param : List Char) : List Char :=
  let words := wordsOf (dropLocations param)
  widenUint (match words with
    | [] => []
    | [type] => type
    | words => words.dropLast.flatten)

/-- The pieces of a text between commas that stand outside parentheses. The depth falls below zero
where a closing parenthesis has no partner. -/
def splitParamsFrom (depth : Int) (piece : List Char) : List Char → List (List Char)
  | [] => [piece.reverse]
  | c :: rest =>
    if c == '(' then splitParamsFrom (depth + 1) (c :: piece) rest
    else if c == ')' then splitParamsFrom (depth - 1) (c :: piece) rest
    else if c == ',' && depth == 0 then piece.reverse :: splitParamsFrom 0 [] rest
    else splitParamsFrom depth (c :: piece) rest

/-- The pieces of a text between commas that stand outside parentheses. -/
def splitParams (text : List Char) : List (List Char) :=
  splitParamsFrom 0 [] text

/-- The parameter list after an opening parenthesis, which runs to its partner or, without one, to
the end of the text. -/
def paramText (afterOpen : List Char) : List Char :=
  match enclosed parens none afterOpen with
  | some (inner, _) => inner
  | none => afterOpen

/-- The reduced form of a signature, as characters. -/
def normalizeChars (signature : List Char) : List Char :=
  match signature.dropWhile (· != '(') with
  | [] => trimChars signature
  | _ :: afterOpen =>
    let name := trimChars (signature.takeWhile (· != '('))
    let inner := paramText afterOpen
    let types := if inner.all isBlank then [] else (splitParams inner).map paramType
    name ++ '(' :: joinWith [','] types ++ [')']

/-- The reduced form of a signature. -/
def normalize (signature : String) : String :=
  String.ofList (normalizeChars signature.toList)

/-- The hash of the reduced form. -/
def hash (signature : String) : List UInt8 :=
  Hash.Keccak.digest (normalize signature).toUTF8.toList

/-- The hash as `0x` and 64 digits. -/
def hashHex (signature : String) : String :=
  "0x" ++ Hash.hex (hash signature)

/-- The four bytes by which a call names the function. -/
def selector (signature : String) : List UInt8 :=
  (hash signature).take 4

/-- The selector as `0x` and eight digits. -/
def selectorHex (signature : String) : String :=
  "0x" ++ Hash.hex (selector signature)

/-- The name in front of the parameter list. -/
def functionName (signature : String) : String :=
  String.ofList (trimChars (signature.toList.takeWhile (· != '(')))

/-- Whether the text has a parameter list at all. -/
def hasParams (signature : String) : Bool :=
  signature.toList.contains '('

end Signature

/-- The parameter that a piece of a parameter list declares: its last word is the name and the words
before are the type. A piece of one word has no name and declares nothing. -/
def parameter? (piece : List Char) : Option (String × String) :=
  match wordsOf piece with
  | [] | [_] => none
  | words => some (String.ofList (words.getLastD []), String.ofList (joinWith [' '] words.dropLast))

/-- The parameters that the text of a parameter list declares. -/
def parametersOf (params : String) : ParameterList :=
  ParameterList.ofList ((splitAt ',' params.toList).filterMap parameter?)

/-- The functions whose signature has the hash of `target`, with their parameters. -/
def matchSignature (functions : List Function) (target : String) : List Function :=
  let wanted := Signature.hash target
  (functions.filter fun f => Signature.hash f.declaredSignature == wanted).map fun f =>
    { f with parameters := parametersOf f.params }

end TokenAudit
