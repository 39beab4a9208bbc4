import TokenAudit.Unicode.Class

/-!
# Blanks and words

Text is cut at runs of whitespace. `collapse` keeps the words and puts one space between
neighbours; `trim` drops the blanks at both ends.
-/

namespace TokenAudit.Text

open Unicode (isBlank)

/-- The maximal runs of characters outside `sep`, in order. `word` is the run being read, last
character first. -/
def splitRuns (sep : Char → Bool) (word : List Char) : List Char → List (List Char)
  | [] => if word.isEmpty then [] else [word.reverse]
  | c :: rest =>
    if sep c then
      if word.isEmpty then splitRuns sep [] rest
      else word.reverse :: splitRuns sep [] rest
    else splitRuns sep (c :: word) rest

/-- The words of a text: its maximal runs of characters that are not blank. -/
def wordsOf (text : List Char) : List (List Char) :=
  splitRuns isBlank [] text

/-- Lists joined with `sep` between neighbours. -/
def joinWith (sep : List Char) : List (List Char) → List Char
  | [] => []
  | [word] => word
  | word :: rest => word ++ sep ++ joinWith sep rest

/-- Every run of whitespace becomes one space, and both ends are trimmed. -/
def collapseChars (text : List Char) : List Char :=
  joinWith [' '] (wordsOf text)

/-- Every run of whitespace becomes one space, and both ends are trimmed. -/
def collapse (text : String) : String :=
  String.ofList (collapseChars text.toList)

/-- The text without the blanks at its start. -/
def trimStartChars (text : List Char) : List Char :=
  text.dropWhile isBlank

/-- The text without the blanks at its end. -/
def trimEndChars (text : List Char) : List Char :=
  (text.reverse.dropWhile isBlank).reverse

/-- The text without the blanks at its ends. -/
def trimChars (text : List Char) : List Char :=
  trimEndChars (trimStartChars text)

/-- The text without the blanks at its ends. -/
def trim (text : String) : String :=
  String.ofList (trimChars text.toList)

/-- Whether the text holds nothing but blanks. -/
def isBlankText (text : String) : Bool :=
  text.toList.all isBlank

/-- ASCII letters in lower case, everything else as it is. -/
def lowerChar (c : Char) : Char :=
  if 'A' ≤ c && c ≤ 'Z' then Char.ofNat (c.toNat + 0x20) else c

/-- ASCII letters in lower case, everything else as it is. -/
def lower (text : String) : String :=
  String.ofList (text.toList.map lowerChar)

/-- Whether `part` occurs in `text` as a block of neighbouring characters. -/
def hasInfix (part : List Char) : List Char → Bool
  | [] => part.isEmpty
  | c :: rest => part.isPrefixOf (c :: rest) || hasInfix part rest

/-- Whether `part` occurs in `text` as a block of neighbouring characters. -/
def occursIn (part text : String) : Bool :=
  hasInfix part.toList text.toList

/-- The pieces of a text between occurrences of `sep`; always at least one. -/
def splitAt (sep : Char) : List Char → List (List Char)
  | [] => [[]]
  | c :: rest =>
    if c == sep then [] :: splitAt sep rest
    else
      match splitAt sep rest with
      | [] => [[c]]
      | piece :: pieces => (c :: piece) :: pieces

end TokenAudit.Text
