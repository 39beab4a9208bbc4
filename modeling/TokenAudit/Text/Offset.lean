/-!
# Byte offsets

Positions in a text are offsets into its UTF-8 encoding. An offset is a *boundary* if a character
starts there or the text ends there.
-/

namespace TokenAudit.Text

/-- The number of bytes that a list of characters takes in UTF-8. -/
def byteLength (text : List Char) : Nat :=
  text.foldl (fun total c => total + c.utf8Size) 0

/-- The text from byte offset `offset` on, or `none` if the offset lies inside a character or
past the end. -/
def dropBytes? : Nat → List Char → Option (List Char)
  | 0, text => some text
  | _ + 1, [] => none
  | n + 1, c :: rest => if c.utf8Size ≤ n + 1 then dropBytes? (n + 1 - c.utf8Size) rest else none

/-- The characters that start before byte offset `offset`. -/
def takeBytes : Nat → List Char → List Char
  | 0, _ => []
  | _ + 1, [] => []
  | n + 1, c :: rest => c :: takeBytes (n + 1 - c.utf8Size) rest

/-- The largest boundary at or below `offset`, in a text that starts at byte `here`. -/
def floorFrom (here offset : Nat) : List Char → Nat
  | [] => here
  | c :: rest => if here + c.utf8Size ≤ offset then floorFrom (here + c.utf8Size) offset rest else here

/-- The largest boundary at or below `offset`. -/
def floorBoundary (text : List Char) (offset : Nat) : Nat :=
  floorFrom 0 offset text

/-- The smallest boundary at or above `offset`, in a text that starts at byte `here`; the end of
the text if there is none. -/
def ceilFrom (here offset : Nat) : List Char → Nat
  | [] => here
  | c :: rest => if offset ≤ here then here else ceilFrom (here + c.utf8Size) offset rest

/-- The smallest boundary at or above `offset`; the end of the text if there is none. -/
def ceilBoundary (text : List Char) (offset : Nat) : Nat :=
  ceilFrom 0 offset text

end TokenAudit.Text
