import TokenAudit.Unicode.Alphabetic
import TokenAudit.Unicode.Digit
import TokenAudit.Unicode.Numeric
import TokenAudit.Unicode.Word

/-!
# Character classes

The classes that scanning needs, over all of Unicode. ASCII is decided by comparisons, so that
closed statements about ASCII text evaluate without a look at the tables. Letters and numbers follow
version 17 of the standard; words and digits, which patterns are made of, follow version 16.
-/

namespace TokenAudit.Unicode

/-- ASCII letters. -/
def isAsciiLetter (c : Char) : Bool :=
  ('a' ≤ c && c ≤ 'z') || ('A' ≤ c && c ≤ 'Z')

/-- ASCII digits. -/
def isAsciiDigit (c : Char) : Bool :=
  '0' ≤ c && c ≤ '9'

/-- Hexadecimal digits of either case. -/
def isHexDigit (c : Char) : Bool :=
  isAsciiDigit c || ('a' ≤ c && c ≤ 'f') || ('A' ≤ c && c ≤ 'F')

/-- The value of hexadecimal digits. -/
def hexNumber (digits : List Char) : Nat :=
  digits.foldl (fun value c =>
    16 * value + (if isAsciiDigit c then c.toNat - 0x30 else c.toNat % 0x20 + 9)) 0

/-- Whitespace: the White_Space property. -/
def isBlank (c : Char) : Bool :=
  c == ' ' || ('\t' ≤ c && c ≤ '\r') ||
    (0x80 ≤ c.toNat &&
      (c.toNat == 0x85 || c.toNat == 0xA0 || c.toNat == 0x1680 ||
        (0x2000 ≤ c.toNat && c.toNat ≤ 0x200A) || c.toNat == 0x2028 || c.toNat == 0x2029 ||
        c.toNat == 0x202F || c.toNat == 0x205F || c.toNat == 0x3000))

/-- Letters of every script: the Alphabetic property. -/
def isAlphabetic (c : Char) : Bool :=
  if c.toNat < 0x80 then isAsciiLetter c else alphabeticTable.contains c.toNat

/-- Letters and numbers of every script: alphabetic, or a number of any category. -/
def isAlphanumeric (c : Char) : Bool :=
  if c.toNat < 0x80 then isAsciiLetter c || isAsciiDigit c
  else alphabeticTable.contains c.toNat || numericTable.contains c.toNat

/-- Word characters: alphabetic characters, marks, decimal digits, connecting punctuation and
join controls. -/
def isWord (c : Char) : Bool :=
  if c.toNat < 0x80 then isAsciiLetter c || isAsciiDigit c || c == '_'
  else wordTable.contains c.toNat

/-- Decimal digits of every script. -/
def isDigit (c : Char) : Bool :=
  if c.toNat < 0x80 then isAsciiDigit c else digitTable.contains c.toNat

end TokenAudit.Unicode
