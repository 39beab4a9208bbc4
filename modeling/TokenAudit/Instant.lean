/-!
# Instants

A point in time, and its text as a date and a time of day without offset from universal time.
-/

namespace TokenAudit

/-- A point in time. -/
structure Instant where
  /-- The nanoseconds since the start of 1970. -/
  nanoseconds : Nat
  deriving Repr, BEq, DecidableEq

/-- A day of the calendar. -/
structure Day where
  /-- The year. -/
  year : Nat
  /-- The month, from 1. -/
  month : Nat
  /-- The day of the month, from 1. -/
  day : Nat
  deriving Repr, BEq, DecidableEq

namespace Day

/-- The day that comes the given number of days after the first of March of the year 0. Years here
start in March, so that a leap day is the last day of its year; every 400 years have 146097 days. -/
def ofMarch (days : Nat) : Day :=
  let cycle := days / 146097
  let inCycle := days % 146097
  let year := (inCycle - inCycle / 1460 + inCycle / 36524 - inCycle / 146096) / 365
  let inYear := inCycle - (365 * year + year / 4 - year / 100)
  let month := (5 * inYear + 2) / 153
  { year := 400 * cycle + year + if month < 10 then 0 else 1
    month := if month < 10 then month + 3 else month - 9
    day := inYear - (153 * month + 2) / 5 + 1 }

/-- The day that comes the given number of days after the first of January 1970. -/
def ofNat (days : Nat) : Day :=
  ofMarch (days + 719468)

example : ofNat 0 = ⟨1970, 1, 1⟩ := by decide
example : ofNat 11016 = ⟨2000, 2, 29⟩ := by decide
example : ofNat 11017 = ⟨2000, 3, 1⟩ := by decide
example : ofNat 20453 = ⟨2025, 12, 31⟩ := by decide
example : ofNat 20454 = ⟨2026, 1, 1⟩ := by decide

end Day

/-- A number in at least `width` digits. -/
def padded (width n : Nat) : String :=
  let digits := toString n
  String.ofList (List.replicate (width - digits.length) '0') ++ digits

namespace Instant

/-- The fraction of a second, in as many groups of three digits as it needs. -/
def fraction (nanoseconds : Nat) : String :=
  if nanoseconds == 0 then ""
  else if nanoseconds % 1000000 == 0 then "." ++ padded 3 (nanoseconds / 1000000)
  else if nanoseconds % 1000 == 0 then "." ++ padded 6 (nanoseconds / 1000)
  else "." ++ padded 9 nanoseconds

/-- The text of an instant. -/
def toText (instant : Instant) : String :=
  let seconds := instant.nanoseconds / 1000000000
  let date := Day.ofNat (seconds / 86400)
  let time := seconds % 86400
  padded 4 date.year ++ "-" ++ padded 2 date.month ++ "-" ++ padded 2 date.day ++ "T" ++
    padded 2 (time / 3600) ++ ":" ++ padded 2 (time / 60 % 60) ++ ":" ++ padded 2 (time % 60) ++
    fraction (instant.nanoseconds % 1000000000) ++ "+00:00"

end Instant

end TokenAudit
