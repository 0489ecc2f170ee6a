/-!
# Lengths of time

A length is whole seconds and nanoseconds. It is written in the largest unit
that leaves a whole part, with the digits of the fraction that are needed and
no more.
-/

set_option autoImplicit false

namespace HopProbe

structure Span where
  seconds : Nat
  nanos : Nat
  deriving DecidableEq, Repr

namespace Span

def ofSeconds (n : Nat) : Span := ⟨n, 0⟩

def ofMillis (n : Nat) : Span := ⟨n / 1000, n % 1000 * 1000000⟩

def trimZeros (cs : List Char) : List Char :=
  (cs.reverse.dropWhile (· == '0')).reverse

def padded (width n : Nat) : List Char :=
  let digits := Nat.toDigits 10 n
  List.replicate (width - digits.length) '0' ++ digits

/-- A whole part, and a fraction that counts units of `10 ^ (-places)`. -/
def decimal (whole places fraction : Nat) : List Char :=
  let shown := trimZeros (padded places fraction)
  Nat.toDigits 10 whole ++ (if shown.isEmpty then [] else '.' :: shown)

def text (t : Span) : String :=
  String.ofList <|
    if 0 < t.seconds then decimal t.seconds 9 t.nanos ++ ['s']
    else if 1000000 ≤ t.nanos then decimal (t.nanos / 1000000) 6 (t.nanos % 1000000) ++ ['m', 's']
    else if 1000 ≤ t.nanos then decimal (t.nanos / 1000) 3 (t.nanos % 1000) ++ ['µ', 's']
    else Nat.toDigits 10 t.nanos ++ ['n', 's']

end Span

/-- The time since a run started, in hundredths of a millisecond. -/
abbrev Elapsed := Nat

def Elapsed.text (t : Elapsed) : String :=
  String.ofList (Nat.toDigits 10 (t / 100) ++ '.' :: Span.padded 2 (t % 100) ++ ['m', 's'])

end HopProbe
