import TrapKernel.Toml.Number

/-!
# TOML dates and times

A date, a time of day, or a date and a time with or without an offset. The calendar is checked, the
value is not kept.
-/

namespace TrapKernel.Toml

open Reader

/-- Read two digits for a number from `lo` to `hi`. -/
def twoDigits (lo hi : Nat) : Reader Nat := do
  let n ← fixedDigits 2
  if lo ≤ n && n ≤ hi then return n else failure

/-- A year with a leap day. -/
def isLeapYear (year : Nat) : Bool := year % 4 = 0 && (year % 100 ≠ 0 || year % 400 = 0)

/-- The number of days of a month. -/
def daysOfMonth (year month : Nat) : Nat :=
  if month = 2 then if isLeapYear year then 29 else 28
  else if month = 4 ∨ month = 6 ∨ month = 9 ∨ month = 11 then 30
  else 31

/-- Read a date. -/
def date : Reader Unit := do
  let year ← fixedDigits 4
  exactly "-"
  let month ← twoDigits 1 12
  exactly "-"
  let _ ← twoDigits 1 (daysOfMonth year month)

/-- Read a time of day. A minute may have a leap second. -/
def time : Reader Unit := do
  let _ ← twoDigits 0 23
  exactly ":"
  let _ ← twoDigits 0 59
  exactly ":"
  let _ ← twoDigits 0 60
  let _ ← maybe (exactly "." *> digit 10 *> many (digit 10))

/-- Read the offset of a time from that of Greenwich. -/
def offset : Reader Unit :=
  (do let _ ← char fun c => c = 'Z' || c = 'z') <|> do
    let _ ← char fun c => c = '+' || c = '-'
    let _ ← twoDigits 0 23
    exactly ":"
    let _ ← twoDigits 0 59

/-- Read a date, a time or both. -/
def dateTime : Reader Value := do
  (do
    date
    let _ ← maybe (do
      let _ ← char fun c => c = 'T' || c = 't' || c = ' '
      time
      let _ ← maybe offset)) <|> time
  return .dateTime

end TrapKernel.Toml
