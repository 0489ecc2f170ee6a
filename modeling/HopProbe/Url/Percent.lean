import HopProbe.Text.Natural
import HopProbe.Text.Utf8

/-!
# Percent encoding

A byte outside the characters that a place allows is written as a percent
sign and two capital hexadecimal digits. Reading leaves a percent sign alone
that two digits do not follow.
-/

set_option autoImplicit false

namespace HopProbe.Url.Percent
open HopProbe.Text

def escape (b : UInt8) : List Char :=
  ['%', hexDigitUpper (b.toNat / 16), hexDigitUpper (b.toNat % 16)]

/-- The ASCII characters that must be escaped. All other bytes from 0x80 on always are. -/
abbrev EscapeSet := Char → Bool

def encodeChar (escaped : EscapeSet) (c : Char) : List Char :=
  if c.toNat < 0x80 ∧ escaped c = false then [c]
  else (Utf8.encodeChar c).flatMap escape

def encode (escaped : EscapeSet) (cs : List Char) : List Char :=
  cs.flatMap (encodeChar escaped)

def hexByte? (a b : UInt8) : Option UInt8 := do
  let high ← hexValue? (Char.ofNat a.toNat)
  let low ← hexValue? (Char.ofNat b.toNat)
  pure (UInt8.ofNat (high * 16 + low))

def decodeBytes : List UInt8 → List UInt8
  | [] => []
  | 0x25 :: a :: b :: rest =>
    match hexByte? a b with
    | some x => x :: decodeBytes rest
    | none => 0x25 :: decodeBytes (a :: b :: rest)
  | b :: rest => b :: decodeBytes rest

def decode (cs : List Char) : List UInt8 := decodeBytes (Utf8.encode cs)

def isControl (c : Char) : Bool := c.toNat < 0x20 || c.toNat == 0x7F

def controls : EscapeSet := isControl

def fragment : EscapeSet := fun c =>
  isControl c || [' ', '"', '<', '>', '\x60'].contains c

def path : EscapeSet := fun c => fragment c || ['#', '?', '\x7b', '\x7d'].contains c

def userinfo : EscapeSet := fun c =>
  path c || ['/', ':', ';', '=', '@', '[', '\\', ']', '^', '|'].contains c

def segment : EscapeSet := fun c => path c || ['/', '%'].contains c

def specialSegment : EscapeSet := fun c => segment c || c == '\\'

def query : EscapeSet := fun c => isControl c || [' ', '"', '#', '<', '>'].contains c

def specialQuery : EscapeSet := fun c => query c || c == '\''

end HopProbe.Url.Percent
