import TokenAudit.Text.Decimal

/-!
# Floating point numbers

Numbers `mantissa · 2 ^ exponent` with a mantissa of 53 bits, in exact arithmetic. A written number is
read with the first nineteen or twenty digits and one rounding for each step, so it can be off by the
last bit. A number is written with the fewest digits that are nearer to it than to any other number.
-/

namespace TokenAudit.Text

/-- The number `mantissa · 2 ^ exponent`, zero or positive. -/
structure Binary64 where
  /-- A whole number below `2 ^ 53`. -/
  mantissa : Nat
  /-- A power of two from `-1074` to `971`. -/
  exponent : Int
  deriving Repr, BEq, DecidableEq

namespace Binary64

/-- A numerator of the number. -/
def numerator (x : Binary64) : Nat :=
  x.mantissa <<< x.exponent.toNat

/-- The denominator that goes with it. -/
def denominator (x : Binary64) : Nat :=
  1 <<< (-x.exponent).toNat

/-- The whole number nearest to a quotient; of two the even one. -/
def nearestQuotient (a b : Nat) : Nat :=
  let q := a / b
  let rest := 2 * (a % b)
  if rest < b || (rest == b && q % 2 == 0) then q else q + 1

/-- The power of two that the last bit of a quotient stands for. -/
def lastBit (a b : Nat) : Int :=
  let guess : Int := (a.log2 : Int) - b.log2 - 52
  let below := a <<< (-guess).toNat < b <<< (52 + guess.toNat)
  max (-1074) (if below then guess - 1 else guess)

/-- The number nearest to a quotient; none if it is too large. -/
def ofQuotient? (a b : Nat) : Option Binary64 :=
  if a == 0 then some ⟨0, -1074⟩
  else
    let e := lastBit a b
    let m := nearestQuotient (a <<< (-e).toNat) (b <<< e.toNat)
    let (m, e) := if m == 1 <<< 53 then (1 <<< 52, e + 1) else (m, e)
    if 971 < e then none else some ⟨m, e⟩

/-! ## Reading -/

/-- The number nearest to a power of ten. -/
def powerOfTen? (n : Nat) : Option Binary64 :=
  ofQuotient? (Nat.pow 10 n) 1

/-- The product of two numbers. -/
def mul? (x y : Binary64) : Option Binary64 :=
  ofQuotient? (x.numerator * y.numerator) (x.denominator * y.denominator)

/-- The quotient of two numbers. -/
def div? (x y : Binary64) : Option Binary64 :=
  ofQuotient? (x.numerator * y.denominator) (x.denominator * y.numerator)

/-- The greatest exponent of ten. -/
def maxPower : Nat := 308

/-- A number times a power of ten. Division by a large power takes several steps; after two of them
nothing is left of a number of 64 bits. -/
def scale? : (steps : Nat) → Binary64 → Int → Option Binary64
  | 0, _, _ => some ⟨0, -1074⟩
  | steps + 1, x, exponent =>
    if exponent.natAbs ≤ maxPower then do
      let power ← powerOfTen? exponent.natAbs
      if 0 ≤ exponent then x.mul? power else x.div? power
    else if x.mantissa == 0 then some x
    else if 0 ≤ exponent then none
    else do scale? steps (← x.div? (← powerOfTen? maxPower)) (exponent + maxPower)

/-- Takes digits into a number as long as it has at most 64 bits; gives the number and how many digits
were taken. -/
def takeDigits (n : Nat) : List Char → Nat × Nat
  | [] => (n, 0)
  | c :: rest =>
    let next := 10 * n + (c.toNat - 0x30)
    if next < 1 <<< 64 then
      let (n, taken) := takeDigits next rest
      (n, taken + 1)
    else (n, 0)

/-- The number that digits before and after a point and an exponent write; none if it is too large. -/
def ofDigits? (whole fraction : List Char) (exponent : Int) : Option Binary64 := do
  let (n, before) := takeDigits 0 whole
  let (n, after) := takeDigits n fraction
  let dropped : Int := whole.length - before
  scale? 3 (← ofQuotient? n 1) (exponent + dropped - after)

/-! ## Writing -/

/-- Whether a quotient rounds to the number: whether it lies between the points halfway to the number's
neighbours. The points themselves do if the mantissa is even. -/
def holds (x : Binary64) (a b : Nat) : Bool :=
  -- everything is counted in quarters of the last bit
  let quarter : Int := x.exponent - 2
  let place := a <<< (-quarter).toNat
  let unit := b <<< quarter.toNat
  let low := 4 * x.mantissa - (if x.mantissa == 1 <<< 52 && -1074 < x.exponent then 1 else 2)
  let high := 4 * x.mantissa + 2
  if x.mantissa % 2 == 0 then low * unit ≤ place && place ≤ high * unit
  else low * unit < place && place < high * unit

/-- The number of decimal digits before the point, or minus the number of zeros after it. The search
goes down from `10 ^ (bound - 401)`. -/
def magnitude (x : Binary64) : (bound : Nat) → Int
  | 0 => -400
  | n + 1 =>
    let power : Int := (n : Int) - 400
    let reached := x.denominator * Nat.pow 10 power.toNat ≤ x.numerator * Nat.pow 10 (-power).toNat
    if reached then power + 1 else magnitude x n

/-- The nearest digits down to a power of ten that round to the number, if any do. -/
def candidate? (x : Binary64) (power : Int) : Option Nat :=
  let a := x.numerator * Nat.pow 10 (-power).toNat
  let b := x.denominator * Nat.pow 10 power.toNat
  let fits (digits : Nat) : Bool :=
    x.holds (digits * Nat.pow 10 power.toNat) (Nat.pow 10 (-power).toNat)
  let nearest := nearestQuotient a b
  if fits nearest then some nearest
  else [a / b, a / b + 1].find? fits

/-- The fewest digits that round to the number, with the power of ten of the last; `count` is how many
digits are still to be tried. -/
def shortestFrom (x : Binary64) (power : Int) : (count : Nat) → Nat × Int
  | 0 => (0, 0)
  | count + 1 =>
    match x.candidate? power with
    | some digits => (digits, power)
    | none => shortestFrom x (power - 1) count

/-- Drops the zeros at the end of digits. -/
def dropZeros : (steps : Nat) → Nat → Int → Nat × Int
  | 0, digits, power => (digits, power)
  | steps + 1, digits, power =>
    if digits % 10 == 0 && digits != 0 then dropZeros steps (digits / 10) (power + 1)
    else (digits, power)

/-- The fewest digits that round to the number, with the power of ten of the last. -/
def shortest (x : Binary64) : Nat × Int :=
  let (digits, power) := shortestFrom x (x.magnitude 800 - 1) 18
  dropZeros 18 digits power

/-- The number as it is written: without an exponent if at most sixteen digits stand before the point
and at most four zeros after it. -/
def text (x : Binary64) : String :=
  if x.mantissa == 0 then "0.0"
  else
    let (n, power) := x.shortest
    let digits := (toString n).toList
    let zeros (count : Int) : List Char := List.replicate count.toNat '0'
    let before : Int := digits.length + power
    String.ofList <|
      if 0 ≤ power && before ≤ 16 then digits ++ zeros power ++ ['.', '0']
      else if 0 < before && before ≤ 16 then
        digits.take before.toNat ++ '.' :: digits.drop before.toNat
      else if -5 < before && before ≤ 0 then '0' :: '.' :: zeros (-before) ++ digits
      else
        let exponent := 'e' :: (toString (before - 1)).toList
        match digits with
        | [digit] => digit :: exponent
        | _ => digits.take 1 ++ '.' :: digits.drop 1 ++ exponent

end Binary64

end TokenAudit.Text
