/-!
# Reading whole numbers

Decimal digits with an optional sign, below a bound. Digits are read from the
left, so of a number that is too large and a bad character the one that comes
first is reported.
-/

set_option autoImplicit false

namespace HopProbe.Text

def twoTo (n : Nat) : Nat := Nat.pow 2 n

def tenTo (n : Nat) : Nat := Nat.pow 10 n

inductive NumberFault where
  | empty
  | badDigit
  | tooLarge
  | tooSmall
  deriving DecidableEq, Repr

def NumberFault.message : NumberFault → String
  | .empty => "cannot parse integer from empty string"
  | .badDigit => "invalid digit found in string"
  | .tooLarge => "number too large to fit in target type"
  | .tooSmall => "number too small to fit in target type"

def digitValue? (c : Char) : Option Nat :=
  if '0' ≤ c ∧ c ≤ '9' then some (c.toNat - 48) else none

def decimal? (cs : List Char) : Option Nat :=
  cs.foldlM (fun n c => (digitValue? c).map (n * 10 + ·)) 0

def readDigits (bound : Nat) (excess : NumberFault) : Nat → List Char → Except NumberFault Nat
  | n, [] => .ok n
  | n, c :: cs =>
    match digitValue? c with
    | none => .error .badDigit
    | some d =>
      if n * 10 + d < bound then readDigits bound excess (n * 10 + d) cs else .error excess

/-- A number below `bound`; a plus sign may stand in front of the digits. -/
def readNatural (bound : Nat) : List Char → Except NumberFault Nat
  | [] => .error .empty
  | ['+'] => .error .badDigit
  | '+' :: cs => readDigits bound .tooLarge 0 cs
  | cs => readDigits bound .tooLarge 0 cs

def readInteger (bound : Nat) : List Char → Except NumberFault Int
  | [] => .error .empty
  | ['+'] => .error .badDigit
  | ['-'] => .error .badDigit
  | '-' :: cs => (readDigits (bound + 1) .tooSmall 0 cs).map fun n => -(n : Int)
  | '+' :: cs => (readDigits bound .tooLarge 0 cs).map fun n => (n : Int)
  | cs => (readDigits bound .tooLarge 0 cs).map fun n => (n : Int)

def hexValue? (c : Char) : Option Nat :=
  let n := c.toNat
  if 48 ≤ n ∧ n ≤ 57 then some (n - 48)
  else if 65 ≤ n ∧ n ≤ 70 then some (n - 55)
  else if 97 ≤ n ∧ n ≤ 102 then some (n - 87)
  else none

def hexDigitLower (n : Nat) : Char :=
  if n < 10 then Char.ofNat (48 + n) else Char.ofNat (87 + n)

def hexDigitUpper (n : Nat) : Char :=
  if n < 10 then Char.ofNat (48 + n) else Char.ofNat (55 + n)

end HopProbe.Text
