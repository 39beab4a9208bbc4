import TokenAudit.Unicode.CaseFolding
import TokenAudit.Unicode.Class

/-!
# Sets of code points

A set is kept as its maximal ranges in ascending order, so that equal sets are kept alike. Surrogates
are code points like all others here; they are never met in a text.
-/

namespace TokenAudit.Unicode

/-- A set of code points. -/
structure CodeSet where
  /-- The maximal ranges, in ascending order. -/
  ranges : RangeTable
  deriving Repr, BEq, DecidableEq, Inhabited

/-- The greatest code point. -/
def maxCode : Nat := 0x10FFFF

namespace CodeSet

/-- Whether the set holds a code point. -/
def contains (set : CodeSet) (code : Nat) : Bool :=
  set.ranges.contains code

/-- Joins a range and ranges that start no earlier, in ascending order, to maximal ones. -/
def joinFrom (first last : Nat) : List (Nat × Nat) → List (Nat × Nat)
  | [] => [(first, last)]
  | (next, top) :: rest =>
    if next ≤ last + 1 then joinFrom first (max last top) rest
    else (first, last) :: joinFrom next top rest

/-- Joins ranges in ascending order of their starts to maximal ones. -/
def join : List (Nat × Nat) → List (Nat × Nat)
  | [] => []
  | (first, last) :: rest => joinFrom first last rest

/-- The set of the code points in some ranges. -/
def ofRanges (ranges : List (Nat × Nat)) : CodeSet :=
  ⟨(join (ranges.mergeSort fun a b => a.1 ≤ b.1)).toArray⟩

/-- The set without members. -/
def empty : CodeSet :=
  ⟨#[]⟩

/-- The set of one code point. -/
def single (code : Nat) : CodeSet :=
  ⟨#[(code, code)]⟩

/-- The set of all code points from one to another. -/
def range (first last : Nat) : CodeSet :=
  ⟨#[(first, last)]⟩

/-- The set of all code points. -/
def all : CodeSet :=
  range 0 maxCode

/-- The code points of either set. -/
def union (a b : CodeSet) : CodeSet :=
  ofRanges (a.ranges.toList ++ b.ranges.toList)

/-- The ranges between given ones, from `start` up to `top`. -/
def gaps (top : Nat) : (start : Nat) → List (Nat × Nat) → List (Nat × Nat)
  | start, [] => if start ≤ top then [(start, top)] else []
  | start, (first, last) :: rest =>
    if start < first then (start, first - 1) :: gaps top (last + 1) rest else gaps top (last + 1) rest

/-- The code points up to `top` outside the set. -/
def complUpTo (top : Nat) (set : CodeSet) : CodeSet :=
  ⟨(gaps top 0 set.ranges.toList).toArray⟩

/-- The code points outside the set. -/
def compl (set : CodeSet) : CodeSet :=
  complUpTo maxCode set

/-- The code points of both sets. -/
def inter (a b : CodeSet) : CodeSet :=
  compl (union (compl a) (compl b))

/-- The code points of the first set alone. -/
def diff (a b : CodeSet) : CodeSet :=
  inter a (compl b)

/-- The code points of exactly one set. -/
def symm (a b : CodeSet) : CodeSet :=
  union (diff a b) (diff b a)

/-- Whether the set is within ASCII. -/
def isAscii (set : CodeSet) : Bool :=
  set.ranges.all fun (_, last) => last < 0x80

/-- Each code point that folds to another, with that one. -/
def foldings : List (Nat × Nat) :=
  foldRuns.flatMap fun run =>
    (List.range ((run.last - run.first) / run.step + 1)).map fun i =>
      let code := run.first + run.step * i
      (code, ((code : Int) + run.shift).toNat)

/-- The set with every code point that differs from a member in case alone. -/
def anyCase (set : CodeSet) : CodeSet :=
  let folded := foldings.filterMap fun (code, target) =>
    if set.contains code then some (target, target) else none
  let set := ofRanges (set.ranges.toList ++ folded)
  let unfolded := foldings.filterMap fun (code, target) =>
    if set.contains target then some (code, code) else none
  ofRanges (set.ranges.toList ++ unfolded)

/-- The set with every ASCII letter that differs from a member in case alone. -/
def anyAsciiCase (set : CodeSet) : CodeSet :=
  ofRanges (set.ranges.toList ++ (List.range 26).flatMap fun i =>
    if set.contains (0x41 + i) || set.contains (0x61 + i) then
      [(0x41 + i, 0x41 + i), (0x61 + i, 0x61 + i)]
    else [])

/-! ## Sets as they are written -/

/-- The range that one code point or two of them with a hyphen write, in hexadecimal digits. -/
def readRange (text : List Char) : Nat × Nat :=
  let first := hexNumber (text.takeWhile (· != '-'))
  match text.dropWhile (· != '-') with
  | _ :: last => (first, hexNumber last)
  | [] => (first, first)

/-- The ranges in a text with blanks between them; `word` is the one being read, last digit first. -/
def readRanges (word : List Char) : List Char → List (Nat × Nat)
  | [] => if word.isEmpty then [] else [readRange word.reverse]
  | c :: rest =>
    if c == ' ' then
      if word.isEmpty then readRanges [] rest else readRange word.reverse :: readRanges [] rest
    else readRanges (c :: word) rest

/-- The set that lines of text write. -/
def ofLines (lines : List String) : CodeSet :=
  ofRanges (lines.flatMap fun line => readRanges [] line.toList)

/-- The set that a text writes. -/
def ofText (text : String) : CodeSet :=
  ofLines [text]

end CodeSet

end TokenAudit.Unicode
