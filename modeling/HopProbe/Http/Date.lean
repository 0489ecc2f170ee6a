import HopProbe.Calendar
import HopProbe.Text.Blank
import HopProbe.Text.Natural

/-!
# Dates of headers

A date has one of three forms: `Sun, 06 Nov 1994 08:49:37 GMT`, with a long
weekday and two digits of the year `Sunday, 06-Nov-94 08:49:37 GMT`, or
`Sun Nov  6 08:49:37 1994`. It is no date unless the weekday is right. Dates
are told in seconds since the beginning of 1970.
-/

set_option autoImplicit false

namespace HopProbe.Http.Date
open HopProbe.Text

def months : List String :=
  ["Jan", "Feb", "Mar", "Apr", "May", "Jun", "Jul", "Aug", "Sep", "Oct", "Nov", "Dec"]

def weekdays : List String :=
  ["Monday", "Tuesday", "Wednesday", "Thursday", "Friday", "Saturday", "Sunday"]

def month? (name : List Char) : Option Nat :=
  (months.findIdx? (·.toList == name)).map (· + 1)

def weekday? (name : List Char) : Option Nat := weekdays.findIdx? (·.toList == name)

def shortWeekday? (name : List Char) : Option Nat :=
  weekdays.findIdx? (·.toList.take 3 == name)

def time? : List Char → Option (Nat × List Char)
  | a :: b :: ':' :: c :: d :: ':' :: e :: f :: rest => do
    let hour ← decimal? [a, b]
    let minute ← decimal? [c, d]
    let second ← decimal? [e, f]
    if hour < 24 ∧ minute < 60 ∧ second < 60 then
      some (hour * 3600 + minute * 60 + second, rest)
    else none
  | _ => none

/-- A moment of a day that exists, lies in the count and falls on the weekday. -/
def moment? (d : Day) (weekday second : Nat) : Option Nat :=
  if 1970 ≤ d.year && d.exists? && d.weekday == weekday then some (d.number * 86400 + second)
  else none

def isZone (cs : List Char) : Bool := cs == [' ', 'G', 'M', 'T']

def ofFixed? : List Char → Option Nat
  | a :: b :: c :: ',' :: ' ' :: d :: e :: ' ' :: f :: g :: h :: ' ' :: i :: j :: k :: l :: ' '
      :: rest => do
    let (second, zone) ← time? rest
    let day := ⟨← decimal? [i, j, k, l], ← month? [f, g, h], ← decimal? [d, e]⟩
    if isZone zone then moment? day (← shortWeekday? [a, b, c]) second else none
  | _ => none

def century (year : Nat) : Nat := if year < 70 then 2000 + year else 1900 + year

def ofLong? (cs : List Char) : Option Nat := do
  match ← cutFirst ',' cs with
  | (weekday, ' ' :: d :: e :: '-' :: f :: g :: h :: '-' :: i :: j :: _ :: rest) => do
    let (second, zone) ← time? rest
    let day := ⟨century (← decimal? [i, j]), ← month? [f, g, h], ← decimal? [d, e]⟩
    if isZone zone then moment? day (← weekday? weekday) second else none
  | _ => none

def ofPlain? : List Char → Option Nat
  | a :: b :: c :: ' ' :: f :: g :: h :: ' ' :: d :: e :: ' ' :: rest => do
    let (second, year) ← time? rest
    match year with
    | [' ', i, j, k, l] =>
      let day := ⟨← decimal? [i, j, k, l], ← month? [f, g, h],
        ← decimal? (if d = ' ' then [e] else [d, e])⟩
      moment? day (← shortWeekday? [a, b, c]) second
    | _ => none
  | _ => none

def parse? (text : String) : Option Nat :=
  let cs := trimmed text.toList
  ofFixed? cs <|> ofLong? cs <|> ofPlain? cs

end HopProbe.Http.Date
