import TokenAudit.Json.Basic
import TokenAudit.Text.Binary64

/-!
# The form of a JSON text

A text can be well formed although some of it stands for nothing: a string may hold half of a
surrogate pair, and a number may be beyond all floating point numbers. Such parts are kept in the form
of the text. They do no harm where they are passed over, but they have no value.
-/

namespace TokenAudit.Json

/-- A JSON text taken apart. -/
inductive Form
  /-- The null value. -/
  | null
  /-- A truth value. -/
  | bool (value : Bool)
  /-- A whole number of at most 64 bits. -/
  | int (value : Int)
  /-- Any other number: its digits before and after the point, and its exponent. -/
  | decimal (negative : Bool) (whole fraction : List Char) (exponent : Int)
  /-- A string, unless it is no text. -/
  | str (text : Option String)
  /-- An array. -/
  | arr (items : List Form)
  /-- An object. Its fields have names, unless these are no texts. -/
  | obj (fields : List (Option String × Form))
  deriving Repr, BEq, Inhabited

/-- The value of a number that is no whole number of 64 bits: the floating point number that it reads
as, if there is one. -/
def decimalValue? (negative : Bool) (whole fraction : List Char) (exponent : Int) : Option Json :=
  (Text.Binary64.ofDigits? whole fraction exponent).map fun x =>
    .decimal ((if negative then "-" else "") ++ x.text)

namespace Form

mutual

/-- The value of a form; none if some part of it has none. -/
def value? : Form → Option Json
  | null => some .null
  | bool value => some (.bool value)
  | int value => some (.int value)
  | decimal negative whole fraction exponent => decimalValue? negative whole fraction exponent
  | str text => text.map .str
  | arr items => (itemValues? items).map .arr
  | obj fields => (fieldValues? fields).map .obj

/-- The values of the items of an array. -/
def itemValues? : List Form → Option (List Json)
  | [] => some []
  | item :: rest => do return (← value? item) :: (← itemValues? rest)

/-- The names and values of the fields of an object. -/
def fieldValues? : List (Option String × Form) → Option (List (String × Json))
  | [] => some []
  | (name, item) :: rest => do return (← name, ← value? item) :: (← fieldValues? rest)

end

end Form

end TokenAudit.Json
