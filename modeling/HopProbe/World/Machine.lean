import HopProbe.Net.IpAddress

/-!
# The machine a probe runs on
-/

set_option autoImplicit false

namespace HopProbe

/-- An address of a network interface, which can be of a family that has no text here. -/
inductive InterfaceAddress where
  | ip (a : IpAddress)
  | other
  deriving DecidableEq, Repr

structure Interface where
  name : String
  flags : String
  address : Option InterfaceAddress
  deriving DecidableEq, Repr

def Interface.ip? (e : Interface) : Option IpAddress :=
  match e.address with
  | some (.ip a) => some a
  | some .other => none
  | none => none

/-- The variables of a process, by the bytes of their names and values. -/
abbrev Environment := List (List UInt8 × List UInt8)

structure Machine where
  /-- The host name, or the number of the error that asking for it gives. -/
  hostName : Except Int (List UInt8)
  interfaces : Except Int (List Interface)
  /-- The text of the table of counters, if it can be read. -/
  counters : Option String

end HopProbe
