import HopProbe.Text.Cut
import HopProbe.Text.Natural

/-!
# Internet addresses

Version 4 is four numbers with dots. Version 6 is eight groups of hexadecimal
digits; `::` stands for a run of zero groups, and the last two groups may be
written as a version 4 address.
-/

set_option autoImplicit false

namespace HopProbe

inductive IpAddress where
  | v4 (a b c d : UInt8)
  | v6 (a b c d e f g h : UInt16)
  deriving DecidableEq, Repr

namespace IpAddress
open HopProbe.Text

def decimalText (n : Nat) : List Char := Nat.toDigits 10 n

def hexText (n : Nat) : List Char := Nat.toDigits 16 n

def dotted (a b c d : UInt8) : List Char :=
  joined ['.'] ([a, b, c, d].map fun x => decimalText x.toNat)

def zeroRun (groups : List Nat) : Nat := (groups.takeWhile (· == 0)).length

/-- Where the first of the longest runs of zeros starts, and its length. -/
def longestZeroRun : List Nat → Nat × Nat
  | [] => (0, 0)
  | g :: gs =>
    let here := zeroRun (g :: gs)
    let (start, length) := longestZeroRun gs
    if length ≤ here then (0, here) else (start + 1, length)

/-- Groups with the first of the longest runs of two or more zeros left out. -/
def compressed (groups : List Nat) : List Char :=
  let (start, length) := longestZeroRun groups
  let written := fun (gs : List Nat) => joined [':'] (gs.map hexText)
  if 2 ≤ length then
    written (groups.take start) ++ [':', ':'] ++ written (groups.drop (start + length))
  else written groups

def groups (a b c d e f g h : UInt16) : List Nat :=
  [a, b, c, d, e, f, g, h].map UInt16.toNat

def highByte (g : UInt16) : UInt8 := UInt8.ofNat (g.toNat / 256)

def lowByte (g : UInt16) : UInt8 := UInt8.ofNat (g.toNat % 256)

/-- A version 6 address that wraps one of version 4 shows it with dots. -/
def text : IpAddress → String
  | .v4 a b c d => String.ofList (dotted a b c d)
  | .v6 0 0 0 0 0 0xFFFF g h =>
    String.ofList ([':', ':', 'f', 'f', 'f', 'f', ':'] ++
      dotted (highByte g) (lowByte g) (highByte h) (lowByte h))
  | .v6 a b c d e f g h => String.ofList (compressed (groups a b c d e f g h))

def octet? (cs : List Char) : Option UInt8 :=
  if cs.isEmpty ∨ cs.any (fun c => (digitValue? c).isNone) ∨
      (cs.length > 1 ∧ cs.head? = some '0') then none
  else match readDigits 256 .tooLarge 0 cs with
    | .ok n => some (UInt8.ofNat n)
    | .error _ => none

def octets? (cs : List Char) : Option (UInt8 × UInt8 × UInt8 × UInt8) :=
  match pieces '.' cs with
  | [a, b, c, d] => do pure (← octet? a, ← octet? b, ← octet? c, ← octet? d)
  | _ => none

def group? (cs : List Char) : Option Nat :=
  if cs.isEmpty ∨ cs.length > 4 then none
  else cs.foldlM (fun n c => (hexValue? c).map (n * 16 + ·)) 0

/-- The groups of a text without `::`; only the last piece may be a version 4 address. -/
def groupList? : List (List Char) → Option (List Nat)
  | [] => some []
  | [piece] =>
    match group? piece with
    | some g => some [g]
    | none => (octets? piece).map fun (a, b, c, d) =>
      [a.toNat * 256 + b.toNat, c.toNat * 256 + d.toNat]
  | piece :: rest => do
    let g ← group? piece
    let gs ← groupList? rest
    pure (g :: gs)

def cutAtGap : List Char → Option (List Char × List Char)
  | [] => none
  | [_] => none
  | ':' :: ':' :: rest => some ([], rest)
  | c :: cs => (cutAtGap cs).map fun (before, after) => (c :: before, after)

def ofGroups? : List Nat → Option IpAddress
  | [a, b, c, d, e, f, g, h] =>
    some (.v6 (UInt16.ofNat a) (UInt16.ofNat b) (UInt16.ofNat c) (UInt16.ofNat d)
      (UInt16.ofNat e) (UInt16.ofNat f) (UInt16.ofNat g) (UInt16.ofNat h))
  | _ => none

def someGroups? (cs : List Char) : Option (List Nat) :=
  if cs.isEmpty then some [] else groupList? (pieces ':' cs)

/-- The gap stands for at least one group, and no version 4 address comes before it. -/
def v6? (cs : List Char) : Option IpAddress :=
  match cutAtGap cs with
  | none => do ofGroups? (← groupList? (pieces ':' cs))
  | some (before, after) => do
    let head ← if before.contains '.' then none else someGroups? before
    let tail ← someGroups? after
    if head.length + tail.length ≤ 7 then
      ofGroups? (head ++ List.replicate (8 - head.length - tail.length) 0 ++ tail)
    else none

def v4? (cs : List Char) : Option IpAddress :=
  (octets? cs).map fun (a, b, c, d) => .v4 a b c d

def parse? (s : String) : Option IpAddress :=
  match v4? s.toList with
  | some a => some a
  | none => v6? s.toList

def unmapped : IpAddress → IpAddress
  | .v6 0 0 0 0 0 0xFFFF g h => .v4 (highByte g) (lowByte g) (highByte h) (lowByte h)
  | ip => ip

def isLoopback : IpAddress → Bool
  | .v4 a _ _ _ => a == 127
  | .v6 0 0 0 0 0 0 0 1 => true
  | .v6 .. => false

def isUnspecified : IpAddress → Bool
  | .v4 0 0 0 0 => true
  | .v6 0 0 0 0 0 0 0 0 => true
  | _ => false

def syntaxMessage : String := "invalid IP address syntax"

end IpAddress
end HopProbe
