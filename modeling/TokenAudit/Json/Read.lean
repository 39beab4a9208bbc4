import TokenAudit.Json.Form

/-!
# Reading JSON text

`form?` takes a text apart. `read?` gives its value, with fields in the order in which they are
written, repeated names included. `document?` gives the value of a document: fields are sorted by name,
the last of several with one name counts, and values nest at most 127 deep.
-/

namespace TokenAudit.Json

open Unicode Text

/-- White space between tokens. -/
def isSpace (c : Char) : Bool :=
  c == ' ' || c == '\n' || c == '\t' || c == '\r'

/-- The text without leading white space. -/
def skipSpace (input : List Char) : List Char :=
  input.dropWhile isSpace

/-! ## Strings -/

/-- The value of a hexadecimal digit. -/
def hexValue? (c : Char) : Option Nat :=
  if isAsciiDigit c then some (c.toNat - 0x30)
  else if isHexDigit c then some (c.toNat % 0x20 + 9)
  else none

/-- The number that four hexadecimal digits write. -/
def hexUnit? (a b c d : Char) : Option Nat := do
  return 0x1000 * (← hexValue? a) + 0x100 * (← hexValue? b) + 0x10 * (← hexValue? c) + (← hexValue? d)

/-- The character that a one-letter escape stands for. -/
def unescape? : Char → Option Char
  | '"' => some '"'
  | '\\' => some '\\'
  | '/' => some '/'
  | 'b' => some '\x08'
  | 'f' => some '\x0c'
  | 'n' => some '\n'
  | 'r' => some '\r'
  | 't' => some '\t'
  | _ => none

/-- The character with a number; none for half of a surrogate pair. -/
def scalar? (unit : Nat) : Option Char :=
  if 0xD800 ≤ unit && unit ≤ 0xDFFF then none else some (Char.ofNat unit)

/-- The character that the two halves of a surrogate pair make. -/
def paired? (high low : Nat) : Option Char :=
  if 0xD800 ≤ high && high ≤ 0xDBFF && 0xDC00 ≤ low && low ≤ 0xDFFF then
    some (Char.ofNat (0x10000 + 0x400 * (high - 0xD800) + (low - 0xDC00)))
  else none

/-- The characters of a string after its opening quote, and the text after its closing quote. Controls
must be escaped. Half of a surrogate pair is no character. -/
def readChars? : List Char → Option (List (Option Char) × List Char)
  | [] => none
  | '"' :: rest => some ([], rest)
  | '\\' :: 'u' :: a :: b :: c :: d :: '\\' :: 'u' :: e :: f :: g :: h :: rest => do
    let unit ← hexUnit? a b c d
    match (hexUnit? e f g h).bind (paired? unit) with
    | some char =>
      let (chars, after) ← readChars? rest
      return (some char :: chars, after)
    | none =>
      let (chars, after) ← readChars? ('\\' :: 'u' :: e :: f :: g :: h :: rest)
      return (scalar? unit :: chars, after)
  | '\\' :: 'u' :: a :: b :: c :: d :: rest => do
    let unit ← hexUnit? a b c d
    let (chars, after) ← readChars? rest
    return (scalar? unit :: chars, after)
  | '\\' :: c :: rest => do
    let plain ← unescape? c
    let (chars, after) ← readChars? rest
    return (some plain :: chars, after)
  | c :: rest =>
    if c.toNat < 0x20 || c == '\\' then none
    else do
      let (chars, after) ← readChars? rest
      return (some c :: chars, after)

/-- A string after its opening quote, unless it is no text. -/
def readString? (input : List Char) : Option (Option String × List Char) :=
  (readChars? input).map fun (chars, after) => ((chars.mapM id).map String.ofList, after)

/-! ## Numbers -/

/-- Leading digits and what follows them. -/
def spanDigits (input : List Char) : List Char × List Char :=
  input.span isAsciiDigit

/-- The digits of a fraction after its point, if there is one. -/
def readFraction? : List Char → Option (Option (List Char) × List Char)
  | '.' :: rest =>
    let (digits, after) := spanDigits rest
    if digits.isEmpty then none else some (some digits, after)
  | input => some (none, input)

/-- An exponent after its letter. -/
def readExponentDigits? (input : List Char) : Option (Option Int × List Char) :=
  let (negative, rest) := match input with
    | '+' :: rest => (false, rest)
    | '-' :: rest => (true, rest)
    | rest => (false, rest)
  let (digits, after) := spanDigits rest
  let n : Int := digitsValue digits
  if digits.isEmpty then none else some (some (if negative then -n else n), after)

/-- The exponent of a number, if there is one. -/
def readExponent? : List Char → Option (Option Int × List Char)
  | 'e' :: rest => readExponentDigits? rest
  | 'E' :: rest => readExponentDigits? rest
  | input => some (none, input)

/-- The number of whole part, fraction and exponent: a whole number if it has only the first and fits
in 64 bits. Minus zero is no whole number. -/
def numberOf (negative : Bool) (whole : List Char) (fraction : Option (List Char))
    (exponent : Option Int) : Form :=
  let n := digitsValue whole
  let fits := if negative then 0 < n && n ≤ 1 <<< 63 else n < 1 <<< 64
  if fraction.isNone && exponent.isNone && fits then .int (if negative then -(n : Int) else n)
  else .decimal negative whole (fraction.getD []) (exponent.getD 0)

/-- A number without its sign. Zeros do not lead. -/
def readUnsigned? (negative : Bool) (input : List Char) : Option (Form × List Char) := do
  let (whole, rest) := spanDigits input
  if whole.isEmpty || (whole.head? == some '0' && 1 < whole.length) then none
  let (fraction, rest) ← readFraction? rest
  let (exponent, rest) ← readExponent? rest
  return (numberOf negative whole fraction exponent, rest)

/-- A number. -/
def readNumber? : List Char → Option (Form × List Char)
  | '-' :: rest => readUnsigned? true rest
  | input => readUnsigned? false input

/-! ## Values -/

mutual

/-- A value and the text after it; `fuel` bounds the number of steps. -/
def readValue? : Nat → List Char → Option (Form × List Char)
  | 0, _ => none
  | fuel + 1, input =>
    match skipSpace input with
    | 'n' :: 'u' :: 'l' :: 'l' :: rest => some (.null, rest)
    | 't' :: 'r' :: 'u' :: 'e' :: rest => some (.bool true, rest)
    | 'f' :: 'a' :: 'l' :: 's' :: 'e' :: rest => some (.bool false, rest)
    | '"' :: rest => (readString? rest).map fun (s, after) => (.str s, after)
    | '[' :: rest =>
      match skipSpace rest with
      | ']' :: after => some (.arr [], after)
      | rest => (readItems? fuel rest).map fun (items, after) => (.arr items, after)
    | '\x7b' :: rest =>
      match skipSpace rest with
      | '\x7d' :: after => some (.obj [], after)
      | rest => (readFields? fuel rest).map fun (fields, after) => (.obj fields, after)
    | rest => readNumber? rest

/-- The items of an array that is not empty, and the text after it. -/
def readItems? : Nat → List Char → Option (List Form × List Char)
  | 0, _ => none
  | fuel + 1, input =>
    match readValue? fuel input with
    | none => none
    | some (item, rest) =>
      match skipSpace rest with
      | ']' :: after => some ([item], after)
      | ',' :: rest => (readItems? fuel rest).map fun (items, after) => (item :: items, after)
      | _ => none

/-- The fields of an object that is not empty, and the text after it. -/
def readFields? : Nat → List Char → Option (List (Option String × Form) × List Char)
  | 0, _ => none
  | fuel + 1, input =>
    match skipSpace input with
    | '"' :: rest =>
      match readString? rest with
      | none => none
      | some (name, rest) =>
        match skipSpace rest with
        | ':' :: rest =>
          match readValue? fuel rest with
          | none => none
          | some (value, rest) =>
            match skipSpace rest with
            | '\x7d' :: after => some ([(name, value)], after)
            | ',' :: rest =>
              (readFields? fuel rest).map fun (fields, after) => ((name, value) :: fields, after)
            | _ => none
        | _ => none
    | _ => none

end

/-- The form of a whole text. -/
def formOfChars? (input : List Char) : Option Form :=
  match readValue? (input.length + 1) input with
  | some (form, rest) => if (skipSpace rest).isEmpty then some form else none
  | none => none

/-- The form of a text. -/
def form? (text : String) : Option Form :=
  formOfChars? text.toList

/-- What stands for a byte that is part of no character. Inside a string the half of a surrogate pair
makes the string no text; anywhere else neither character is allowed. -/
def strayByte : List Char :=
  ['\uFFFD', '\\', 'u', 'd', 'c', '0', '0']

/-- The characters of some bytes from a place on, with `strayByte` for each byte that is part of no
character. -/
def charsFrom (bytes : ByteArray) : Nat → Nat → List Char
  | 0, _ => []
  | fuel + 1, place =>
    if bytes.size ≤ place then []
    else
      match bytes.utf8DecodeChar? place with
      | some c => c :: charsFrom bytes fuel (place + c.utf8Size)
      | none => strayByte ++ charsFrom bytes fuel (place + 1)

/-- The form of a text that is given as bytes. They need not be characters inside strings. -/
def formOfBytes? (bytes : ByteArray) : Option Form :=
  formOfChars? (charsFrom bytes bytes.size 0)

/-- The value of a text. -/
def read? (text : String) : Option Json :=
  (form? text).bind Form.value?

/-! ## Documents -/

mutual

/-- How deep arrays and objects nest. -/
def depth : Json → Nat
  | arr items => depthItems items + 1
  | obj fields => depthFields fields + 1
  | _ => 0

/-- How deep the items of an array nest. -/
def depthItems : List Json → Nat
  | [] => 0
  | item :: rest => max (depth item) (depthItems rest)

/-- How deep the fields of an object nest. -/
def depthFields : List (String × Json) → Nat
  | [] => 0
  | (_, value) :: rest => max (depth value) (depthFields rest)

end

/-- Puts a field in its place in the order of names, in front of fields with the same name. -/
def insertField (field : String × Json) : List (String × Json) → List (String × Json)
  | [] => [field]
  | next :: rest =>
    if next.1 < field.1 then next :: insertField field rest
    else if next.1 == field.1 then next :: rest
    else field :: next :: rest

mutual

/-- The value with the fields of all objects sorted by name; of several with one name the last
counts. -/
def sorted : Json → Json
  | arr items => arr (sortedItems items)
  | obj fields => obj (sortedFields fields)
  | value => value

/-- The items of an array, each sorted. -/
def sortedItems : List Json → List Json
  | [] => []
  | item :: rest => sorted item :: sortedItems rest

/-- The fields of an object, sorted. -/
def sortedFields : List (String × Json) → List (String × Json)
  | [] => []
  | (name, value) :: rest => insertField (name, sorted value) (sortedFields rest)

end

/-- How many levels a document may have. -/
def maxDepth : Nat := 127

/-- The value of a document. -/
def document? (text : String) : Option Json := do
  let value ← read? text
  if value.depth ≤ maxDepth then return value.sorted else none

end TokenAudit.Json
