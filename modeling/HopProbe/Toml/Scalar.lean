import HopProbe.Text.Cut
import HopProbe.Toml.Moment
import HopProbe.Toml.Value

/-!
# Numbers, truth values and moments of TOML

Underscores stand between digits. A decimal number has no zero in front, a
number of another base no sign. Integers fit 128 bits, and a real that is
written with digits is finite.
-/

set_option autoImplicit false

namespace HopProbe.Toml
open HopProbe.Text

def digits? (isDigit : Char → Bool) (cs : List Char) : Option (List Char) :=
  let groups := pieces '_' cs
  if groups.all fun g => !g.isEmpty && g.all isDigit then some groups.flatten else none

def numberOf (base : Nat) (digits : List Char) : Nat :=
  digits.foldl (fun n c => n * base + (hexValue? c).getD 0) 0

def inBase? (base : Nat) (isDigit : Char → Bool) (cs : List Char) : Option Nat :=
  (digits? isDigit cs).map (numberOf base)

def isHexDigit (c : Char) : Bool := (hexValue? c).isSome

def isOctalDigit (c : Char) : Bool := '0' ≤ c && c ≤ '7'

def isBinaryDigit (c : Char) : Bool := c == '0' || c == '1'

def wholeDigits? (cs : List Char) : Option (List Char) :=
  match digits? Char.isDigit cs with
  | some ('0' :: _ :: _) => none
  | found => found

def decimal? (cs : List Char) : Option Nat := (wholeDigits? cs).map (numberOf 10)

def unbounded? : List Char → Option Int
  | '0' :: 'x' :: rest => (inBase? 16 isHexDigit rest).map Int.ofNat
  | '0' :: 'o' :: rest => (inBase? 8 isOctalDigit rest).map Int.ofNat
  | '0' :: 'b' :: rest => (inBase? 2 isBinaryDigit rest).map Int.ofNat
  | '+' :: rest => (decimal? rest).map Int.ofNat
  | '-' :: rest => (decimal? rest).map fun n => -(n : Int)
  | cs => (decimal? cs).map Int.ofNat

def integer? (cs : List Char) : Option Int :=
  (unbounded? cs).bind fun n => if -(twoTo 127 : Int) ≤ n ∧ n < twoTo 128 then some n else none

def withoutSign : List Char → List Char
  | '+' :: rest => rest
  | '-' :: rest => rest
  | cs => cs

def isExponentMark (c : Char) : Bool := c == 'e' || c == 'E'

def exponent? (cs : List Char) : Option Int :=
  let magnitude := (inBase? 10 Char.isDigit (withoutSign cs)).map Int.ofNat
  if cs.head? == some '-' then magnitude.map (- ·) else magnitude

/-- The least number that rounds to infinity. -/
def overflow : Nat := twoTo 1024 - twoTo 970

/-- Whether `n * 10 ^ p` rounds to a finite binary64 value. -/
def isFiniteDecimal (n : Nat) (p : Int) : Bool :=
  let places := (Nat.toDigits 10 n).length + p
  n == 0 || places < 309 ||
    (places == 309 && n * tenTo p.toNat < overflow * tenTo (-p).toNat)

def isDecimalReal (cs : List Char) : Bool :=
  let mantissa := cs.takeWhile (! isExponentMark ·)
  let (whole, fraction) := match cutFirst '.' mantissa with
    | some (whole, fraction) => (whole, digits? Char.isDigit fraction)
    | none => (mantissa, some [])
  let exponent := match cs.dropWhile (! isExponentMark ·) with
    | [] => if mantissa.contains '.' then some 0 else none
    | _ :: rest => exponent? rest
  match wholeDigits? whole, fraction, exponent with
  | some whole, some fraction, some exponent =>
    isFiniteDecimal (numberOf 10 (whole ++ fraction)) (exponent - fraction.length)
  | _, _, _ => false

def isReal (cs : List Char) : Bool :=
  let magnitude := withoutSign cs
  magnitude == ['i', 'n', 'f'] || magnitude == ['n', 'a', 'n'] || isDecimalReal magnitude

def isScalarChar (c : Char) : Bool := c.isAlphanum || ['_', '+', '-', '.', ':'].contains c

/-- The characters of a value without quotes or brackets. A blank may stand between a
date and a time. -/
def scalarToken (cs : List Char) : List Char :=
  let token := cs.takeWhile isScalarChar
  match cs.drop token.length with
  | ' ' :: c :: rest =>
    if Moment.isDate token && c.isDigit then token ++ ' ' :: (c :: rest).takeWhile isScalarChar
    else token
  | _ => token

def Value.ofToken? (token : List Char) : Option Value :=
  if token = ['t', 'r', 'u', 'e'] then some (.boolean true)
  else if token = ['f', 'a', 'l', 's', 'e'] then some (.boolean false)
  else match integer? token with
    | some n => some (.integer n)
    | none =>
      if isReal token then some (.real (String.ofList token))
      else if Moment.isMoment token then some (.moment (String.ofList token))
      else none

end HopProbe.Toml
