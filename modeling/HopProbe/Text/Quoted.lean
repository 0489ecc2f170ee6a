import HopProbe.Text.Natural
import HopProbe.Text.Shapeless

/-!
# Quoted text

Text in messages stands between double quotes. Quotes, backslashes and
controls are escaped, and a character without a shape of its own is shown by
its number, so that two different texts never look alike.
-/

set_option autoImplicit false

namespace HopProbe.Text

def hexDigits (n : Nat) : List Char :=
  (Nat.toDigits 16 n)

def quotedChar (c : Char) : List Char :=
  if c = '\x00' then ['\\', '0']
  else if c = '\t' then ['\\', 't']
  else if c = '\r' then ['\\', 'r']
  else if c = '\n' then ['\\', 'n']
  else if c = '"' then ['\\', '"']
  else if c = '\\' then ['\\', '\\']
  else if c.toNat < 0x20 ∨ c.toNat = 0x7F ∨ (0x7F < c.toNat ∧ isShapeless c) then
    ['\\', 'u', '\x7b'] ++ hexDigits c.toNat ++ ['\x7d']
  else [c]

def quote (s : String) : String :=
  String.ofList ('"' :: s.toList.flatMap quotedChar ++ ['"'])

end HopProbe.Text
