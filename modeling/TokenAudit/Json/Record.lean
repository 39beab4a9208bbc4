import TokenAudit.Json.Form

/-!
# Records as JSON

A record is an object with named fields, or an array of the fields' values in order.
-/

namespace TokenAudit.Json

/-- The one value of a field: absent, present, or an error if it is given twice. -/
def single? {α : Type} (name : String) (fields : List (String × α)) : Option (Option α) :=
  match fields.filter (·.1 == name) with
  | [] => some none
  | [(_, value)] => some (some value)
  | _ => none

/-- The values of the named fields of an array of values: at least the first `atLeast`, and none beyond
the last. -/
def inOrder? {α : Type} (names : List String) (atLeast : Nat) (items : List α) :
    Option (List (Option α)) :=
  if atLeast ≤ items.length && items.length ≤ names.length then
    some (items.map some ++ List.replicate (names.length - items.length) none)
  else none

/-- The values of the named fields. Other fields of an object do not matter. -/
def record? (names : List String) (atLeast : Nat) : Json → Option (List (Option Json))
  | obj fields => names.mapM (single? · fields)
  | arr items => inOrder? names atLeast items
  | _ => none

/-- The forms of the named fields. Other fields of an object need no value, but they need names. -/
def Form.record? (names : List String) (atLeast : Nat) : Form → Option (List (Option Form))
  | .obj fields => do
    let fields ← fields.mapM fun (name, form) => name.map fun name => (name, form)
    names.mapM (single? · fields)
  | .arr items => inOrder? names atLeast items
  | _ => none

/-- A string. -/
def asText? : Json → Option String
  | str value => some value
  | _ => none

/-- A truth value. -/
def asBool? : Json → Option Bool
  | bool value => some value
  | _ => none

/-- A whole number of 64 bits with sign. -/
def asInt? : Json → Option Int
  | int value => if -0x8000000000000000 ≤ value && value < 0x8000000000000000 then some value else none
  | _ => none

/-- A list of strings. -/
def asTexts? : Json → Option (List String)
  | arr items => items.mapM asText?
  | _ => none

/-- One of several words, alone or as the name of an empty field. -/
def asWord? : Json → Option String
  | str word => some word
  | obj [(word, null)] => some word
  | _ => none

/-- The value of a field that must be present. -/
def needed {α : Type} (decode : Json → Option α) (field : Option Json) : Option α :=
  field.bind decode

/-- The value of a field that may be absent or null. -/
def optional {α : Type} (decode : Json → Option α) : Option Json → Option (Option α)
  | none => some none
  | some null => some none
  | some value => (decode value).map some

/-- The value of a field that may be absent but not null. -/
def defaulted {α : Type} (otherwise : α) (decode : Json → Option α) : Option Json → Option α
  | none => some otherwise
  | some value => decode value

end TokenAudit.Json
