/-!
# The calendar

Days are counted from the first of January 1970, which was a Thursday. Years
are those of the Gregorian calendar.
-/

set_option autoImplicit false

namespace HopProbe

structure Day where
  year : Nat
  month : Nat
  day : Nat
  deriving DecidableEq, Repr

namespace Day

def isLeapYear (year : Nat) : Bool := year % 4 == 0 && (year % 100 != 0 || year % 400 == 0)

def daysIn (year month : Nat) : Nat :=
  match month with
  | 2 => if isLeapYear year then 29 else 28
  | 4 | 6 | 9 | 11 => 30
  | _ => 31

def exists? (d : Day) : Bool :=
  1 ≤ d.month && d.month ≤ 12 && 1 ≤ d.day && d.day ≤ daysIn d.year d.month

def daysBefore (year : Nat) : Nat :=
  365 * (year - 1) + (year - 1) / 4 - (year - 1) / 100 + (year - 1) / 400

def daysOfMonths (year : Nat) : Nat → Nat
  | 0 => 0
  | months + 1 => daysOfMonths year months + daysIn year (months + 1)

def number (d : Day) : Nat :=
  daysBefore d.year - daysBefore 1970 + daysOfMonths d.year (d.month - 1) + (d.day - 1)

def weekday (d : Day) : Nat := (d.number + 3) % 7

end Day
end HopProbe
