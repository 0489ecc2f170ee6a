import HopProbe.Net.IpAddress

/-!
# Socket addresses

An address and a port. A version 6 address stands in brackets, where a
numeric scope may follow it, which is read and forgotten.
-/

set_option autoImplicit false

namespace HopProbe

structure SocketAddress where
  ip : IpAddress
  port : Nat
  deriving DecidableEq, Repr

namespace SocketAddress
open HopProbe.Text

def portBound : Nat := 65536

def digits? (bound : Nat) (cs : List Char) : Option Nat :=
  if cs.isEmpty then none
  else match readDigits bound .tooLarge 0 cs with
    | .ok n => some n
    | .error _ => none

def withoutScope? (cs : List Char) : Option (List Char) :=
  match cutFirst '%' cs with
  | none => some cs
  | some (address, scope) => (digits? (twoTo 32) scope).map fun _ => address

def bracketed? (cs : List Char) : Option SocketAddress :=
  match cutFirst ']' cs with
  | some (inner, ':' :: port) => do
    let ip ← IpAddress.v6? (← withoutScope? inner)
    pure ⟨ip, ← digits? portBound port⟩
  | _ => none

def parse? (s : String) : Option SocketAddress :=
  match s.toList with
  | '[' :: rest => bracketed? rest
  | cs =>
    match cutFirst ':' cs with
    | some (address, port) => do pure ⟨← IpAddress.v4? address, ← digits? portBound port⟩
    | none => none

def text (a : SocketAddress) : String := a.ip.text ++ ":" ++ toString a.port

end SocketAddress
end HopProbe
