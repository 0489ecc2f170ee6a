import HopProbe.Text.Natural

/-!
# The shortest decimal of a real

A finite binary64 value is `m * 2 ^ e`. Every real nearer to it than to its
neighbours reads back as it, and so do the two ends of that interval when `m`
is even. The decimal chosen is the one with the fewest digits inside the
interval, and of those the one nearest to the value. It is written without an
exponent.
-/

set_option autoImplicit false

namespace HopProbe.Text.Real

/-- The value `mantissa * 2 ^ (exponent - 1074)`, with the lower neighbour at
half the distance of the upper one when `narrow`. -/
structure Finite where
  mantissa : Nat
  exponent : Nat
  narrow : Bool
  deriving Repr

inductive Parts where
  | notANumber
  | infinite (negative : Bool)
  | finite (negative : Bool) (value : Finite)
  deriving Repr

def parts (bits : UInt64) : Parts :=
  let n := bits.toNat
  let negative := n / twoTo 63 == 1
  let biased := n / twoTo 52 % twoTo 11
  let fraction := n % twoTo 52
  if biased = 2047 then
    if fraction = 0 then .infinite negative else .notANumber
  else if biased = 0 then .finite negative ⟨fraction, 0, false⟩
  else .finite negative ⟨twoTo 52 + fraction, biased - 1, fraction = 0 && biased > 1⟩

/-- Numerator, over `4 * 2 ^ 1074`, of the value and of the ends of its interval. -/
def Finite.centre (v : Finite) : Nat := 4 * v.mantissa * twoTo v.exponent

def Finite.low (v : Finite) : Nat :=
  v.centre - (if v.narrow then 1 else 2) * twoTo v.exponent

def Finite.high (v : Finite) : Nat := v.centre + 2 * twoTo v.exponent

def scale : Nat := 4 * twoTo 1074

/-- Whether `d * 10 ^ p`, with `p` an integer, reads back as the value. -/
def Finite.covers (v : Finite) (d : Nat) (p : Int) : Bool :=
  let x := d * tenTo p.toNat * scale
  let unit := tenTo (-p).toNat
  let low := v.low * unit
  let high := v.high * unit
  if v.mantissa % 2 = 0 then low ≤ x && x ≤ high else low < x && x < high

def Finite.distance (v : Finite) (d : Nat) (p : Int) : Nat :=
  let x := d * tenTo p.toNat * scale
  let c := v.centre * tenTo (-p).toNat
  if x ≤ c then c - x else x - c

/-- The better of the two multiples of `10 ^ p` around the value, if one reads back. -/
def Finite.onGrid (v : Finite) (p : Int) : Option Nat :=
  let below := v.centre * tenTo (-p).toNat / (tenTo p.toNat * scale)
  let above := below + 1
  match v.covers below p, v.covers above p with
  | true, true =>
    if v.distance below p < v.distance above p then some below
    else if v.distance above p < v.distance below p then some above
    else if below % 2 = 0 then some below else some above
  | true, false => some below
  | false, true => some above
  | false, false => none

def Finite.search (v : Finite) : Nat → Int → Nat × Int
  | 0, p => (v.centre * tenTo (-p).toNat / (tenTo p.toNat * scale), p)
  | steps + 1, p =>
    match v.onGrid p with
    | some d => (d, p)
    | none => v.search steps (p - 1)

/-- Digits and power of ten. Grids from `10 ^ 309` down to `10 ^ (-343)` suffice. -/
def Finite.shortest (v : Finite) : Nat × Int :=
  if v.mantissa = 0 then (0, 0) else v.search 700 309

def plain (d : Nat) (p : Int) : List Char :=
  let digits := Nat.toDigits 10 d
  match p with
  | .ofNat k => if d = 0 then digits else digits ++ List.replicate k '0'
  | .negSucc k =>
    let places := k + 1
    if digits.length ≤ places then
      ['0', '.'] ++ List.replicate (places - digits.length) '0' ++ digits
    else
      digits.take (digits.length - places) ++ '.' :: digits.drop (digits.length - places)

def text (bits : UInt64) : String :=
  match parts bits with
  | .notANumber => "NaN"
  | .infinite negative => if negative then "-inf" else "inf"
  | .finite negative v =>
    let (d, p) := v.shortest
    String.ofList ((if negative then ['-'] else []) ++ plain d p)

end HopProbe.Text.Real
