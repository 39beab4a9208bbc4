import TokenAudit.Unicode.Age
import TokenAudit.Unicode.Category
import TokenAudit.Unicode.Listed
import TokenAudit.Unicode.Script
import TokenAudit.Unicode.ScriptExtension

/-!
# Properties of code points

Sets of code points go by the names of the standard: general categories, scripts, ages, and properties
that a code point has or has not. Case, separators and a leading `is` do not matter in a name.
-/

namespace TokenAudit.Unicode

/-! ## Names -/

/-- A name without case and separators. -/
def plainName (name : List Char) : List Char :=
  name.filterMap fun c =>
    if c == ' ' || c == '_' || c == '-' || 0x80 ≤ c.toNat then none
    else if 'A' ≤ c && c ≤ 'Z' then some (Char.ofNat (c.toNat + 0x20))
    else some c

/-- A name without case, separators and a leading `is`. Where that would leave the letter `c` alone, it
stands for a property that has no set. -/
def looseName (name : List Char) : String :=
  match name with
  | i :: s :: rest =>
    if (i == 'i' || i == 'I') && (s == 's' || s == 'S') then
      if plainName rest == ['c'] then "isc" else String.ofList (plainName rest)
    else String.ofList (plainName name)
  | _ => String.ofList (plainName name)

/-- The set with a name in a list. -/
def namedIn? (table : List (List String × List String)) (name : String) : Option CodeSet :=
  (table.find? (·.1.contains name)).map fun entry => CodeSet.ofLines entry.2

/-- The code points of some categories. -/
def inCategories (names : List String) : CodeSet :=
  names.foldl (fun set name => set.union ((namedIn? categories name).getD .empty)) .empty

/-- The code points with a property that is given by a list. -/
def listed (name : String) : CodeSet :=
  (namedIn? listedProperties name).getD .empty

/-! ## General categories -/

/-- The categories of characters that are letters. -/
def letters : List String := ["lu", "ll", "lt", "lm", "lo"]

/-- All categories of characters but those that are controls and the like. -/
def visible : List String :=
  letters ++ ["mn", "mc", "me", "nd", "nl", "no", "pc", "pd", "ps", "pe", "pi", "pf", "po", "sm", "sc",
    "sk", "so", "zs", "zl", "zp"]

/-- The set of a general category, or of several that have a name together. -/
def category? (name : String) : Option CodeSet :=
  match name with
  | "any" => some .all
  | "ascii" => some (.range 0 0x7F)
  | "assigned" => some (inCategories (visible ++ ["cc", "cf", "co"]))
  | "cn" | "unassigned" => some (inCategories (visible ++ ["cc", "cf", "co"])).compl
  | "c" | "other" => some (inCategories visible).compl
  | "l" | "letter" => some (inCategories letters)
  | "lc" | "casedletter" => some (inCategories ["lu", "ll", "lt"])
  | "m" | "mark" | "combiningmark" => some (inCategories ["mn", "mc", "me"])
  | "n" | "number" => some (inCategories ["nd", "nl", "no"])
  | "p" | "punctuation" | "punct" =>
    some (inCategories ["pc", "pd", "ps", "pe", "pi", "pf", "po"])
  | "s" | "symbol" => some (inCategories ["sm", "sc", "sk", "so"])
  | "z" | "separator" => some (inCategories ["zs", "zl", "zp"])
  | _ => namedIn? categories name

/-! ## Properties -/

/-- Lowercase letters and what counts as such. -/
def lowercase : CodeSet := (inCategories ["ll"]).union (listed "otherlowercase")

/-- Uppercase letters and what counts as such. -/
def uppercase : CodeSet := (inCategories ["lu"]).union (listed "otheruppercase")

/-- Marks that stay with the character before them. -/
def graphemeExtend : CodeSet := (inCategories ["mn", "me"]).union (listed "othergraphemeextend")

/-- What the syntax of languages is made of. -/
def patternCodes : CodeSet := (listed "patternsyntax").union (listed "patternwhitespace")

/-- What an identifier can start with. -/
def idStart : CodeSet :=
  ((inCategories (letters ++ ["nl"])).union (listed "otheridstart")).diff patternCodes

/-- What an identifier can go on with. -/
def idContinue : CodeSet :=
  ((idStart.union (inCategories ["mn", "mc", "nd", "pc"])).union
    (listed "otheridcontinue")).diff patternCodes

/-- Parts of identifiers that decomposition can turn into something else. -/
def unstable : CodeSet :=
  .ofText "37A 309B-309C FC5E-FC63 FDFA-FDFB FE70 FE72 FE74 FE76 FE78 FE7A FE7C FE7E"

/-- White space. -/
def whiteSpace : CodeSet :=
  .ofText "9-D 20 85 A0 1680 2000-200A 2028-2029 202F 205F 3000"

/-- The set of a property that a code point has or has not. -/
def property? (name : String) : Option CodeSet :=
  match name with
  | "lowercase" | "lower" => some lowercase
  | "uppercase" | "upper" => some uppercase
  | "cased" => some ((lowercase.union uppercase).union (inCategories ["lt"]))
  | "alphabetic" | "alpha" =>
    some (((lowercase.union uppercase).union (inCategories ["lt", "lm", "lo", "nl"])).union
      (listed "otheralphabetic"))
  | "math" => some ((inCategories ["sm"]).union (listed "othermath"))
  | "caseignorable" | "ci" =>
    some ((inCategories ["mn", "me", "cf", "lm", "sk"]).union
      (.ofText "27 2E 3A B7 387 55F 5F4 2018-2019 2024 2027 FE13 FE52 FE55 FF07 FF0E FF1A"))
  | "graphemeextend" | "grext" => some graphemeExtend
  | "graphemebase" | "grbase" =>
    some (((inCategories visible).diff (inCategories ["zl", "zp"])).diff graphemeExtend)
  | "idstart" | "ids" => some idStart
  | "idcontinue" | "idc" => some idContinue
  | "xidstart" | "xids" =>
    some ((idStart.diff unstable).diff (.ofText "E33 EB3 FF9E-FF9F"))
  | "xidcontinue" | "xidc" => some (idContinue.diff unstable)
  | "defaultignorablecodepoint" | "di" =>
    some ((((listed "otherdefaultignorablecodepoint").union (inCategories ["cf"])).union
      (listed "variationselector")).diff
        ((CodeSet.ofText "FFF9-FFFB 13430-1343F").union (listed "prependedconcatenationmark")))
  | "whitespace" | "wspace" | "space" => some whiteSpace
  | _ => namedIn? listedProperties name

/-! ## Scripts and ages -/

/-- The set of a script. -/
def script? (name : String) : Option CodeSet :=
  namedIn? scripts name

/-- All code points that scripts share. -/
def shared : CodeSet :=
  sharedCodes.foldl (fun set entry => set.union (.ofLines entry.2)) .empty

/-- The set of a script together with what it shares with others. -/
def scriptExtension? (name : String) : Option CodeSet :=
  match scripts.find? (·.1.contains name) with
  | some (code :: _, own) =>
    if code == "zyyy" || code == "zinh" then some ((CodeSet.ofLines own).diff shared)
    else some ((CodeSet.ofLines own).union (.ofLines ((sharedCodes.lookup code).getD [])))
  | _ => none

/-- Whether a value is the name of a version. -/
def namesAge (value version : String) : Bool :=
  value == version || value.toList == 'v' :: version.toList.filter (· != '.')

/-- The code points that a list of versions has added up to a named one. -/
def agesUpTo? (value : String) (set : CodeSet) : List (String × List String) → Option CodeSet
  | [] => none
  | (version, added) :: rest =>
    let set := set.union (.ofLines added)
    if namesAge value version then some set else agesUpTo? value set rest

/-- The code points that were assigned in a version. -/
def age? (value : String) : Option CodeSet :=
  agesUpTo? value .empty ages

/-! ## Queries -/

/-- What a set of code points is asked for by. -/
inductive Query
  /-- The name of a property, a category or a script. -/
  | named (name : List Char)
  /-- A property and its value. -/
  | valued (property value : List Char)
  deriving Repr, BEq, DecidableEq

/-- The set that is asked for. A property comes before a category, and that before a script. -/
def Query.set? : Query → Option CodeSet
  | named name =>
    let name := looseName name
    ((property? name).orElse fun _ => category? name).orElse fun _ => script? name
  | valued property value =>
    let value := looseName value
    match looseName property with
    | "gc" | "generalcategory" => category? value
    | "sc" | "script" => script? value
    | "scx" | "scriptextensions" => scriptExtension? value
    | "age" => age? value
    | _ => none

end TokenAudit.Unicode
