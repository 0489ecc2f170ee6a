import HopProbe.Calendar
import HopProbe.Text.Natural

/-!
# Dates and times of TOML

A date, a time, or both with an offset or without one. Seconds may be left
out.
-/

set_option autoImplicit false

namespace HopProbe.Toml.Moment
open HopProbe.Text

def afterDate? : List Char → Option (List Char)
  | a :: b :: c :: d :: '-' :: e :: f :: '-' :: g :: h :: rest => do
    let year ← decimal? [a, b, c, d]
    let month ← decimal? [e, f]
    let day ← decimal? [g, h]
    if Day.exists? ⟨year, month, day⟩ then some rest else none
  | _ => none

def afterPair? (limit : Nat) : List Char → Option (List Char)
  | a :: b :: rest => do if (← decimal? [a, b]) ≤ limit then some rest else none
  | _ => none

def afterMinutes? (cs : List Char) : Option (List Char) := do
  match ← afterPair? 23 cs with
  | ':' :: rest => afterPair? 59 rest
  | _ => none

def afterFraction? : List Char → Option (List Char)
  | '.' :: c :: rest => if c.isDigit then some (rest.dropWhile Char.isDigit) else none
  | '.' :: [] => none
  | cs => some cs

/-- What follows a time. There may be a leap second. -/
def afterTime? (cs : List Char) : Option (List Char) := do
  match ← afterMinutes? cs with
  | ':' :: rest => afterFraction? (← afterPair? 60 rest)
  | rest => some rest

def isOffset : List Char → Bool
  | [] | ['Z'] | ['z'] => true
  | '+' :: rest | '-' :: rest => afterMinutes? rest == some []
  | _ => false

def isDate (cs : List Char) : Bool := afterDate? cs == some []

def isTime (cs : List Char) : Bool := afterTime? cs == some []

def isMoment (cs : List Char) : Bool :=
  match afterDate? cs with
  | some [] => true
  | some (c :: rest) => ['T', 't', ' '].contains c && (afterTime? rest).any isOffset
  | none => isTime cs

end HopProbe.Toml.Moment
