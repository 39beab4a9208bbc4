import TokenAudit.Text.Decimal

/-!
# What plain YAML scalars mean

A plain scalar may read as null, a truth value or a number. Strings that would are written in quotes.
-/

namespace TokenAudit.Yaml

open Unicode Text

/-- The words for null. -/
def isNullWord (text : String) : Bool :=
  text ∈ ["null", "Null", "NULL", "~"]

/-- The truth value that a word stands for. -/
def boolWord? (text : String) : Option Bool :=
  if text ∈ ["true", "True", "TRUE"] then some true
  else if text ∈ ["false", "False", "FALSE"] then some false
  else none

/-- The number that digits write in a base up to sixteen. -/
def numeral? (base : Nat) (digits : List Char) : Option Nat :=
  if digits.isEmpty then none
  else digits.foldlM (fun n c =>
    let digit := if isAsciiDigit c then c.toNat - 0x30 else c.toNat % 0x20 + 9
    if isHexDigit c && digit < base then some (base * n + digit) else none) 0

/-- A numeral: decimal, or in the base that its first two characters name. -/
def prefixedNumeral? : List Char → Option Nat
  | '0' :: 'x' :: rest => numeral? 16 rest
  | '0' :: 'o' :: rest => numeral? 8 rest
  | '0' :: 'b' :: rest => numeral? 2 rest
  | digits => numeral? 10 digits

/-- A zero followed by more digits, with or without a sign: text, not a number. -/
def isZeroLed (text : List Char) : Bool :=
  let digits := match text with
    | '-' :: rest => rest
    | '+' :: rest => rest
    | rest => rest
  match digits with
  | '0' :: rest => !rest.isEmpty && rest.all isAsciiDigit
  | _ => false

/-- Whether a text reads as a whole number of at most 128 bits. -/
def isWhole (text : List Char) : Bool :=
  !isZeroLed text &&
    match text with
    | '-' :: rest => (prefixedNumeral? rest).any (· ≤ 1 <<< 127)
    | '+' :: rest => (prefixedNumeral? rest).any (· < 1 <<< 128)
    | rest => (prefixedNumeral? rest).any (· < 1 <<< 128)

/-- Whether a text reads as a number with a fraction or an exponent, or as one of the special
numbers. -/
def isReal (text : List Char) : Bool :=
  let finite (digits : List Char) : Bool := (Decimal.read? digits).any (·.isFinite)
  let infinite (word : List Char) : Bool :=
    String.ofList word ∈ [".inf", ".Inf", ".INF"]
  !isZeroLed text &&
    (String.ofList text ∈ [".nan", ".NaN", ".NAN"] ||
      match text with
      | '-' :: rest => infinite rest || finite rest
      | '+' :: rest => infinite rest || finite rest
      | rest => infinite rest || finite rest)

/-- Whether a plain scalar with this text would not be read as a string, or looks like a number. -/
def isAmbiguous (text : String) : Bool :=
  let chars := text.toList
  chars.isEmpty || isNullWord text || (boolWord? text).isSome || isWhole chars || isReal chars ||
    isZeroLed chars

end TokenAudit.Yaml
