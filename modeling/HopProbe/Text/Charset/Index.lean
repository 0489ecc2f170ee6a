/-!
# Indexes of characters

An index gives the character at each place of a code. It is written as the
characters themselves, in order: `+3` goes on with the three code points
behind the last one, and `-3` leaves three places without a character.
-/

set_option autoImplicit false

namespace HopProbe.Text

/-- The code points by place; zero where there is none. -/
abbrev CodeIndex := Array Nat

namespace CodeIndex

/-- An index while it is read: what a number behind a sign will mean. -/
structure Reader where
  codes : Array Nat
  gap : Bool
  count : Nat

def run (codes : Array Nat) (first : Nat) : Nat → Array Nat
  | 0 => codes
  | n + 1 => run (codes.push first) (first + 1) n

def Reader.settle (r : Reader) : Array Nat :=
  if r.gap then r.codes ++ Array.replicate r.count 0
  else run r.codes ((r.codes.back?.getD 0) + 1) r.count

def Reader.push (r : Reader) (c : Char) : Reader :=
  if c.isDigit then { r with count := r.count * 10 + (c.toNat - 48) }
  else if c.isWhitespace then r
  else if c = '+' then ⟨r.settle, false, 0⟩
  else if c = '-' then ⟨r.settle, true, 0⟩
  else ⟨r.settle.push c.toNat, false, 0⟩

def ofText (text : String) : CodeIndex := (text.foldl Reader.push ⟨#[], false, 0⟩).settle

def at? (index : CodeIndex) (place : Nat) : Option Char :=
  match index[place]? with
  | some 0 | none => none
  | some n => some (Char.ofNat n)

end CodeIndex
end HopProbe.Text
