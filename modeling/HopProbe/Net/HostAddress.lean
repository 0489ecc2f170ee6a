import HopProbe.Net.SocketAddress

/-!
# Addresses among host names

A host name that the resolver takes for an address needs no lookup. Besides
the usual forms there are one to four numbers with dots, in base ten, eight or
sixteen, of which the last fills the bytes that the others leave; and version
6 addresses with the interface that they belong to.
-/

set_option autoImplicit false

namespace HopProbe.HostAddress
open HopProbe.Text

def isHexDigit (c : Char) : Bool := (hexValue? c).isSome

def isOctalDigit (c : Char) : Bool := '0' ≤ c && c ≤ '7'

def ofDigits (base : Nat) (cs : List Char) : Nat :=
  cs.foldl (fun n c => n * base + (hexValue? c).getD 0) 0

def number? : List Char → Option Nat
  | '0' :: x :: cs =>
    if x == 'x' || x == 'X' then
      if !cs.isEmpty && cs.all isHexDigit then some (ofDigits 16 cs) else none
    else if (x :: cs).all isOctalDigit then some (ofDigits 8 (x :: cs))
    else none
  | cs => if !cs.isEmpty && cs.all Char.isDigit then some (ofDigits 10 cs) else none

def byte (n place : Nat) : UInt8 := UInt8.ofNat (n / Nat.pow 256 place % 256)

def ofNumber (n : Nat) : IpAddress := .v4 (byte n 3) (byte n 2) (byte n 1) (byte n 0)

def whole? : List Nat → Option Nat
  | [] => none
  | last :: leading =>
    if leading.length ≤ 3 ∧ leading.all (· < 256) ∧ last < Nat.pow 256 (4 - leading.length) then
      some ((leading.reverse.foldl (fun n b => n * 256 + b) 0) * Nat.pow 256 (4 - leading.length)
        + last)
    else none

def dotted? (cs : List Char) : Option IpAddress := do
  let numbers ← (pieces '.' cs).mapM number?
  (whole? numbers.reverse).map ofNumber

def isLocal : IpAddress → Bool
  | .v6 a .. => a.toNat / 64 == 0x3FA || (a.toNat / 256 == 0xFF && [1, 2].contains (a.toNat % 16))
  | .v4 .. => false

/-- Whether a text names an interface of an address: by its number, or by its
name where the address is local. -/
def isScope (interfaces : List String) (ip : IpAddress) (scope : List Char) : Bool :=
  (isLocal ip && interfaces.contains (String.ofList scope)) ||
    (scope.all Char.isDigit && (SocketAddress.digits? (twoTo 32) scope).isSome)

def scoped? (interfaces : List String) (cs : List Char) : Option IpAddress := do
  let (address, scope) ← cutFirst '%' cs
  let ip ← IpAddress.v6? address
  if isScope interfaces ip scope then some ip else none

def parse? (interfaces : List String) (host : String) : Option IpAddress :=
  IpAddress.parse? host <|> dotted? host.toList <|> scoped? interfaces host.toList

end HopProbe.HostAddress
