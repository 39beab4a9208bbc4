import TokenAudit.Hash.Hex
import TokenAudit.Json.Basic

/-!
# JSON text

Values are written in two layouts: compact, and indented by two spaces with one item a line. Strings
keep every character but quotes, backslashes and controls.
-/

namespace TokenAudit.Json

/-- A character inside a string. -/
def escapeChar (c : Char) : List Char :=
  if c == '"' then ['\\', '"']
  else if c == '\\' then ['\\', '\\']
  else if c == '\n' then ['\\', 'n']
  else if c == '\r' then ['\\', 'r']
  else if c == '\t' then ['\\', 't']
  else if c == '\x08' then ['\\', 'b']
  else if c == '\x0c' then ['\\', 'f']
  else if c.toNat < 0x20 then
    ['\\', 'u', '0', '0', Hash.hexDigit (c.toNat / 16), Hash.hexDigit (c.toNat % 16)]
  else [c]

/-- A string in quotes. -/
def quote (s : String) : String :=
  String.ofList ('"' :: s.toList.flatMap escapeChar ++ ['"'])

/-- An opening brace. -/
def openBrace : String := "\x7b"

/-- A closing brace. -/
def closeBrace : String := "\x7d"

/-- A line break followed by `depth` levels of indentation. -/
def newline (depth : Nat) : String :=
  String.ofList ('\n' :: List.replicate (2 * depth) ' ')

mutual

/-- A value on one line, without spaces. -/
def compact : Json → String
  | null => "null"
  | bool value => if value then "true" else "false"
  | int value => toString value
  | decimal literal => literal
  | str value => quote value
  | arr items => "[" ++ compactItems items ++ "]"
  | obj fields => openBrace ++ compactFields fields ++ closeBrace

/-- The items of an array with commas between them. -/
def compactItems : List Json → String
  | [] => ""
  | [item] => compact item
  | item :: rest => compact item ++ "," ++ compactItems rest

/-- The fields of an object with commas between them. -/
def compactFields : List (String × Json) → String
  | [] => ""
  | [(name, value)] => quote name ++ ":" ++ compact value
  | (name, value) :: rest => quote name ++ ":" ++ compact value ++ "," ++ compactFields rest

end

mutual

/-- A value with one item a line, at the given depth. -/
def prettyAt (depth : Nat) : Json → String
  | arr [] => "[]"
  | arr items => "[" ++ prettyItems (depth + 1) items ++ newline depth ++ "]"
  | obj [] => openBrace ++ closeBrace
  | obj fields => openBrace ++ prettyFields (depth + 1) fields ++ newline depth ++ closeBrace
  | null => "null"
  | bool value => if value then "true" else "false"
  | int value => toString value
  | decimal literal => literal
  | str value => quote value

/-- The items of an array, each on a line of its own. -/
def prettyItems (depth : Nat) : List Json → String
  | [] => ""
  | [item] => newline depth ++ prettyAt depth item
  | item :: rest => newline depth ++ prettyAt depth item ++ "," ++ prettyItems depth rest

/-- The fields of an object, each on a line of its own. -/
def prettyFields (depth : Nat) : List (String × Json) → String
  | [] => ""
  | [(name, value)] => newline depth ++ quote name ++ ": " ++ prettyAt depth value
  | (name, value) :: rest =>
    newline depth ++ quote name ++ ": " ++ prettyAt depth value ++ "," ++ prettyFields depth rest

end

/-- A value with one item a line, indented by two spaces a level. -/
def pretty (value : Json) : String :=
  prettyAt 0 value

end TokenAudit.Json
