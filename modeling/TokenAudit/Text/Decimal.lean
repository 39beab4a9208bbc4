import TokenAudit.Unicode.Class

/-!
# Decimal numbers

Decimal numbers as they are written, and whether they are in the range of 64-bit floating point
numbers.
-/

namespace TokenAudit.Text

open Unicode

/-- The number that decimal digits write. -/
def digitsValue (digits : List Char) : Nat :=
  digits.foldl (fun n c => 10 * n + (c.toNat - 0x30)) 0

/-- The number `digits · 10 ^ exponent`. -/
structure Decimal where
  /-- The digits. -/
  digits : List Char
  /-- The power of ten that they are multiplied with. -/
  exponent : Int
  deriving Repr, BEq, DecidableEq

namespace Decimal

/-- The least number that rounds to infinity. -/
def overflow : Nat :=
  (1 <<< 1024) - (1 <<< 970)

/-- Whether the number rounds to a finite 64-bit floating point number. -/
def isFinite (d : Decimal) : Bool :=
  let digits := d.digits.dropWhile (· == '0')
  let magnitude : Int := digits.length + d.exponent
  if digits.isEmpty || magnitude < 300 then true
  else if 320 < magnitude then false
  else if 0 ≤ d.exponent then digitsValue digits * Nat.pow 10 d.exponent.toNat < overflow
  else digitsValue digits < overflow * Nat.pow 10 (-d.exponent).toNat

/-- An exponent after its letter: an optional sign, then digits to the end. -/
def exponent? (input : List Char) : Option Int :=
  let (negative, digits) := match input with
    | '-' :: rest => (true, rest)
    | '+' :: rest => (false, rest)
    | rest => (false, rest)
  if digits.isEmpty || !digits.all isAsciiDigit then none
  else
    let n : Int := digitsValue digits
    some (if negative then -n else n)

/-- A number without sign: digits with at most one point among or around them, then perhaps an
exponent. -/
def read? (input : List Char) : Option Decimal := do
  let (whole, rest) := input.span isAsciiDigit
  let (fraction, rest) := match rest with
    | '.' :: rest => rest.span isAsciiDigit
    | rest => ([], rest)
  if whole.isEmpty && fraction.isEmpty then none
  let shift : Int := fraction.length
  match rest with
  | [] => return ⟨whole ++ fraction, -shift⟩
  | c :: rest =>
    if c == 'e' || c == 'E' then return ⟨whole ++ fraction, (← exponent? rest) - shift⟩ else none

end Decimal

end TokenAudit.Text
