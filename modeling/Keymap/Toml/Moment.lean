import Keymap.Toml.Number

/-!
# TOML dates and times

- `date`: a day of the Gregorian calendar, as in `2024-02-29`.
- `time`: a time of day, as in `07:32:00.5`, the second up to 60.
- `offset`: `Z` or a distance from it, as in `-07:00`.
- `moment`: a date, a time, or both with or without an offset.
-/

namespace Keymap.Toml

open Reader

/-- A number of exactly so many digits. -/
def figure (digits : Nat) : Reader Nat := fun cs => do
  let number := cs.take digits
  guard (number.length = digits && number.all Char.isDigit)
  return (valueIn 10 number, cs.drop digits)

/-- A number of two digits in a range. -/
def pair (least greatest : Nat) : Reader Nat := do
  let n ← figure 2
  guard (least ≤ n ∧ n ≤ greatest)
  return n

/-- Whether a year has 366 days. -/
def isLeapYear (year : Nat) : Bool :=
  year % 4 = 0 && (year % 100 ≠ 0 || year % 400 = 0)

/-- The days of a month, which is numbered from one. -/
def daysIn (year month : Nat) : Nat :=
  if month = 2 then (if isLeapYear year then 29 else 28)
  else if month = 4 || month = 6 || month = 9 || month = 11 then 30
  else 31

/-- A day of the calendar. -/
def date : Reader Unit := do
  let year ← figure 4
  char '-'
  let month ← pair 1 12
  char '-'
  let day ← pair 1 31
  guard (day ≤ daysIn year month)

/-- A time of day. -/
def time : Reader Unit := do
  let _ ← pair 0 23
  char ':'
  let _ ← pair 0 59
  char ':'
  let _ ← pair 0 60
  let _ ← optional? do
    char '.'
    takeWhile1 Char.isDigit

/-- The distance from universal time. -/
def offset : Reader Unit := do
  if (← satisfy fun c => c == 'Z' || c == 'z' || c == '+' || c == '-').toUpper ≠ 'Z' then
    let _ ← pair 0 23
    char ':'
    let _ ← pair 0 59

/-- What stands between a date and a time, and both of them. -/
def dateAndTime : Reader Unit := do
  date
  let _ ← optional? do
    let _ ← satisfy fun c => c == 'T' || c == 't' || c == ' '
    time
    optional? offset

/-- A date, a time or both, as it is written. -/
def moment : Reader String :=
  spelling (dateAndTime <|> time)

end Keymap.Toml
