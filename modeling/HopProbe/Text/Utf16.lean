/-!
# UTF-16

A character is one code unit or a high and a low surrogate. A surrogate
without its partner reads as U+FFFD and takes no neighbour with it.
-/

set_option autoImplicit false

namespace HopProbe.Text.Utf16

def isHigh (u : UInt16) : Bool := 0xD800 ≤ u.toNat && u.toNat < 0xDC00

def isLow (u : UInt16) : Bool := 0xDC00 ≤ u.toNat && u.toNat < 0xE000

def encodeChar (c : Char) : List UInt16 :=
  let n := c.toNat
  if n < 0x10000 then [UInt16.ofNat n]
  else [UInt16.ofNat (0xD800 + (n - 0x10000) / 0x400), UInt16.ofNat (0xDC00 + (n - 0x10000) % 0x400)]

def encode (cs : List Char) : List UInt16 := cs.flatMap encodeChar

def pair (high low : UInt16) : Char :=
  Char.ofNat (0x10000 + (high.toNat - 0xD800) * 0x400 + (low.toNat - 0xDC00))

def single (u : UInt16) : Char :=
  if isHigh u || isLow u then '\uFFFD' else Char.ofNat u.toNat

def decode : List UInt16 → List Char
  | [] => []
  | [u] => [single u]
  | u :: v :: rest =>
    if isHigh u && isLow v then pair u v :: decode rest
    else single u :: decode (v :: rest)

def unitsLE : List UInt8 → List UInt16
  | low :: high :: rest => UInt16.ofNat (low.toNat + 256 * high.toNat) :: unitsLE rest
  | _ => []

def unitsBE : List UInt8 → List UInt16
  | high :: low :: rest => UInt16.ofNat (low.toNat + 256 * high.toNat) :: unitsBE rest
  | _ => []

/-- A last byte without a partner is one more U+FFFD. -/
def tail (bs : List UInt8) : List Char :=
  if bs.length % 2 = 1 then ['\uFFFD'] else []

def decodeLE (bs : List UInt8) : List Char := decode (unitsLE bs) ++ tail bs

def bytesLE (us : List UInt16) : List UInt8 :=
  us.flatMap fun u => [UInt8.ofNat (u.toNat % 256), UInt8.ofNat (u.toNat / 256)]

end HopProbe.Text.Utf16
