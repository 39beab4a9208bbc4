import TokenAudit.Requirement.Domain.Report
import TokenAudit.Text.Comment

/-!
# Requirements on a domain description of ERC-5267

The function must have the mandated shape and return a tuple of seven expressions. Each expression
is classified by how it is written, and what cannot be judged becomes advice.
-/

namespace TokenAudit.Domain

open Pattern

/-- A comma with blanks around it. -/
def comma : Pattern :=
  sequence [blanks, lit ",", blanks]

/-- A value of the given type with a name. -/
def typed (type : String) : Pattern :=
  sequence [lit type, blanks1, wordRun]

/-- A value of the given type with a name, possibly placed in memory. -/
def typedInMemory (type : String) : Pattern :=
  sequence [lit type, blanks1, opt (sequence [lit "memory", blanks1]), wordRun]

/-- The declaration that the standard mandates. -/
def signature : Pattern :=
  sequence [lit "function", blanks1, lit "eip712Domain", blanks, lit "(", blanks, lit ")", blanks,
    anyOf [lit "public", lit "external"], blanks1, lit "view",
    star true (sequence [blanks1, anyOf [lit "virtual",
      sequence [lit "override", opt (sequence [blanks, lit "(", many (.noneOf [')']), lit ")"])]]]),
    blanks1, lit "returns", blanks, lit "(", blanks,
    typed "bytes1", comma, typedInMemory "string", comma, typedInMemory "string", comma,
    typed "uint256", comma, typed "address", comma, typed "bytes32", comma,
    typedInMemory "uint256[]", blanks, lit ")"]

/-- A name or a version: a literal, a stored short string, a call or a name. -/
def textExpr : Pattern :=
  anyOf [quoted, sequence [lit "_", wordRun, lit ".toString()"],
    sequence [wordRun, blanks, lit "(", blanks, lit ")"], wordRun]

/-- A conversion to `type`, written with a single pair of parentheses. -/
def conversion (type : String) : Pattern :=
  sequence [lit type, lit "(", many (.noneOf [')']), lit ")"]

/-- The returned tuple; its seven expressions are the groups 1 to 7. -/
def returnTuple : Pattern :=
  sequence [lit "return", blanks, lit "(", blanks,
    group 1 (anyOf [conversion "bytes1", sequence [lit "hex\"", many1 .hexDigit, lit "\""], wordRun]),
    comma, group 2 textExpr, comma, group 3 textExpr, comma,
    group 4 (anyOf [lit "block.chainid", sequence [lit "_", wordRun], many1 .digit]), comma,
    group 5 (anyOf [lit "address(this)", wordRun]), comma,
    group 6 (anyOf [conversion "bytes32", sequence [lit "0x", many1 .hexDigit], wordRun]), comma,
    group 7 (anyOf [sequence [lit "new", blanks, conversion "uint256[]"], lit "[]", wordRun]),
    blanks, lit ")", blanks, lit ";"]

/-- The expressions of the returned tuple. -/
structure Tuple where
  /-- The bitmap. -/
  fields : String
  /-- The name. -/
  name : String
  /-- The version. -/
  version : String
  /-- The chain id. -/
  chainId : String
  /-- The verifying contract. -/
  verifyingContract : String
  /-- The salt. -/
  salt : String
  /-- The extensions. -/
  extensions : String
  deriving Repr, BEq, DecidableEq

/-- The first returned tuple of a text. -/
def Tuple.read? (condensed : List Char) : Option Tuple :=
  (returnTuple.find? condensed).map fun found =>
    let part (index : Nat) := (found.group? index).getD ""
    ⟨part 1, part 2, part 3, part 4, part 5, part 6, part 7⟩

/-- The value of a hexadecimal digit. -/
def digitValue (c : Char) : Nat :=
  if Unicode.isAsciiDigit c then c.toNat - 0x30 else (Text.lowerChar c).toNat - 0x57

/-- The number that hexadecimal digits write. -/
def hexValue (digits : String) : Nat :=
  digits.toList.foldl (fun value c => 16 * value + digitValue c) 0

/-- One or two hexadecimal digits, as group 1. -/
def byteDigits : Pattern :=
  group 1 (sequence [one .hexDigit, opt (one .hexDigit)])

/-- A bitmap written as a hexadecimal string; its digits are group 1. -/
def hexString : Pattern :=
  sequence [edge .textStart, lit "hex\"", byteDigits, lit "\"", edge .textEnd]

/-- A bitmap written as a converted number; its digits are group 1. -/
def byteConversion : Pattern :=
  sequence [edge .textStart, lit "bytes1(", blanks, lit "0x", byteDigits, blanks, lit ")",
    edge .textEnd]

/-- The bitmap that an expression writes as a literal. -/
def fieldsValue? (expression : String) : Option Nat :=
  let digits? (p : Pattern) := (p.find? expression.toList).bind (·.group? 1)
  ((digits? hexString).or (digits? byteConversion)).map hexValue

/-- A converted salt; what is converted is group 1, without outer blanks. -/
def saltConversion : Pattern :=
  sequence [edge .textStart, lit "bytes32(", blanks, group 1 (few (.noneOf [')'])), blanks, lit ")",
    edge .textEnd]

/-- A salt written out in full. -/
def fullSalt : Pattern :=
  sequence [edge .textStart, lit "0x", times 64 (one .hexDigit), edge .textEnd]

/-- A zero of any length. -/
def zeroLiteral : Pattern :=
  sequence [edge .textStart, opt (lit "0x"), many (.oneOf ['0']), edge .textEnd]

/-- The parenthesis that an expression ends in; its content is group 1, without outer blanks. -/
def finalParens : Pattern :=
  sequence [lit "(", blanks, group 1 (few (.noneOf [')'])), blanks, lit ")", edge .textEnd]

/-- Whether an expression is a call whose text mentions `what`. -/
def isAccessor (what expression : String) : Bool :=
  expression.toList.getLast? == some ')' && expression.toList.head? != some '"' &&
    Text.occursIn what (Text.lower expression)

/-- Whether an expression is a literal. -/
def isQuoted (expression : String) : Bool :=
  expression.toList.head? == some '"'

/-- Whether an expression reads a stored short string whose name mentions `what`. -/
def isStored (what expression : String) : Bool :=
  Text.occursIn "toString()" expression && Text.occursIn what expression

/-- A number in lower-case hexadecimal digits without leading zeros. -/
def hexText (n : Nat) : String :=
  String.ofList (Nat.toDigits 16 n)

/-- The report after the bitmap has been judged. -/
def judgeFields (expression : String) (r : DomainReport) : DomainReport :=
  match fieldsValue? expression with
  | none => r
  | some value =>
    let required := r.fields.required.mask
    let r := { r with fields := { r.fields with value := some value } }
    if value &&& required == required then { r with fields := { r.fields with valid := true } }
    else
      { r with
        criticalIssues := r.criticalIssues ++
          ["Fields bitmap 0x" ++ hexText value ++ " missing required bits (needs 0x" ++
            hexText required ++ ")"] }

/-- The report after the name has been judged. -/
def judgeName (expression : String) (r : DomainReport) : DomainReport :=
  if (isQuoted expression && 2 < expression.utf8ByteSize) || isStored "_name" expression ||
      isAccessor "name" expression then
    { r with name := { r.name with valid := true, nonEmpty := true } }
  else r

/-- The report after the version has been judged. -/
def judgeVersion (expression : String) (r : DomainReport) : DomainReport :=
  if isQuoted expression || isStored "_version" expression || isAccessor "version" expression then
    { r with version := { r.version with valid := true } }
  else r

/-- The report after the chain id has been judged. -/
def judgeChainId (expression : String) (r : DomainReport) : DomainReport :=
  if Text.lower expression == "block.chainid" then { r with chainId := ⟨true, true⟩ }
  else
    { r with warnings := r.warnings ++ ["chainId should use block.chainid for fork safety"] }

/-- Whether a unit shows signs of a proxy. -/
def showsProxy (unit : CodeUnit) : Bool :=
  Text.hasInfix ".delegatecall".toList unit.code ||
    Text.hasInfix "proxy".toList (unit.code.map Text.lowerChar)

/-- The report after the verifying contract has been judged. -/
def judgeContract (units : List CodeUnit) (expression : String) (r : DomainReport) : DomainReport :=
  if Text.lower expression == "address(this)" then
    let proxied := units.any showsProxy
    { r with
      verifyingContract := ⟨true, true, !proxied⟩
      criticalIssues :=
        if proxied then r.criticalIssues ++ ["Proxy pattern detected but no proxy address handling"]
        else r.criticalIssues }
  else r

/-- The report after the salt has been judged. -/
def judgeSalt (expression : String) (r : DomainReport) : DomainReport :=
  let converted := (saltConversion.find? expression.toList).bind (·.group? 1)
  if converted.isSome || fullSalt.isMatch expression.toList then
    let nonZero := !zeroLiteral.isMatch (converted.getD expression).toList
    { r with salt := { r.salt with valid := true, nonZero } }
  else r

/-- The report after the extensions have been judged. -/
def judgeExtensions (expression : String) (r : DomainReport) : DomainReport :=
  if "new".toList.isPrefixOf expression.toList || expression == "[]" then
    let length := ((finalParens.find? expression.toList).bind (·.group? 1)).getD ""
    { r with extensions := ⟨true, length != "" && length != "0"⟩ }
  else r

/-- The report after every expression of a tuple has been judged. -/
def judge (units : List CodeUnit) (r : DomainReport) (tuple : Tuple) : DomainReport :=
  r |> judgeFields tuple.fields |> judgeName tuple.name |> judgeVersion tuple.version
    |> judgeChainId tuple.chainId |> judgeContract units tuple.verifyingContract
    |> judgeSalt tuple.salt |> judgeExtensions tuple.extensions

/-- The report after one more unit, which counts only if it has the mandated shape. -/
def step (units : List CodeUnit) (r : DomainReport) (unit : CodeUnit) : DomainReport :=
  if signature.isMatch unit.code then
    let r := { r with functionExists := true }
    match Tuple.read? (Text.condenseChars unit.code) with
    | some tuple => judge units r tuple
    | none => r
  else r

/-- The stored values that matter; the name is group 1. -/
def storedName : Pattern :=
  group 1 (anyOf [lit "_name", lit "_version", lit "_hashedName", lit "_salt"])

/-- A keyword that fixes a value. -/
def fixing : Pattern :=
  anyOf [lit "immutable", lit "constant"]

/-- The types of stored values. -/
def storedType : Pattern :=
  anyOf [lit "string", lit "bytes32", lit "ShortString"]

/-- A fixed value declared with the keyword in front of the type. -/
def fixedLeading : Pattern :=
  sequence [fixing, blanks1, storedType, blanks1, storedName, wordEdge]

/-- A fixed value declared with the keyword after the type. -/
def fixedTrailing : Pattern :=
  sequence [storedType, blanks1,
    opt (sequence [anyOf [lit "private", lit "internal", lit "public"], blanks1]), fixing, blanks1,
    storedName, wordEdge]

/-- The names of the fixed values that a source declares. -/
def fixedNames (source : List Char) : List String :=
  (fixedLeading.findAll source ++ fixedTrailing.findAll source).filterMap (·.group? 1)

/-- The report after the fixed values have been noted. -/
def markFixed (source : List Char) (r : DomainReport) : DomainReport :=
  let names := fixedNames source
  { r with
    name := { r.name with
      immutable := r.name.immutable || names.contains "_name" || names.contains "_hashedName" }
    version := { r.version with immutable := r.version.immutable || names.contains "_version" }
    salt := { r.salt with immutable := r.salt.immutable || names.contains "_salt" } }

/-- The declaration of the type hash. -/
def typehash : Pattern :=
  sequence [lit "bytes32", blanks1, star true (sequence [wordRun, blanks1]),
    one (.union (.range 'A' 'Z') (.oneOf ['_'])),
    many (.union (.range 'A' 'Z') (.union (.range '0' '9') (.oneOf ['_']))), blanks, lit "=", blanks,
    lit "keccak256", blanks, lit "(", blanks, lit "\"EIP712Domain", blanks, lit "(",
    many (.noneOf ['"']), lit ")", blanks, lit "\"", blanks, lit ")"]

/-- Uses of the domain separator. -/
def domainSeparator : Pattern :=
  anyOf [lit "_domainSeparatorV4()", lit "DOMAIN_SEPARATOR"]

/-- The report with the conclusions drawn from the findings. -/
def conclude (r : DomainReport) : DomainReport :=
  if r.functionExists then
    { r with
      correctFields := r.allValid
      criticalIssues :=
        if r.name.immutable then r.criticalIssues
        else r.criticalIssues ++ ["name parameter should be immutable"]
      warnings :=
        if r.version.immutable then r.warnings
        else r.warnings ++ ["version parameter should be immutable for security"] }
  else r

/-- Checks the requirements. -/
def verify (subject : Subject) : DomainReport :=
  let source := subject.source.toList
  let judged := markFixed source (subject.units.foldl (step subject.units) .start)
  conclude { judged with
    typehash := typehash.isMatch source
    domainSeparator := domainSeparator.isMatch source }

end TokenAudit.Domain
