import HopProbe.Text.Natural
import HopProbe.Text.Utf16

/-!
# String literals of JSON

The grammar of RFC 8259: no raw control below U+0020, eight short escapes,
and `\u` with four hexadecimal digits. An escaped surrogate must be the first
or second half of an escaped pair.
-/

set_option autoImplicit false

namespace HopProbe.Script.JsonString
open HopProbe.Text

def short? (c : Char) : Option Char :=
  if c = '"' then some '"'
  else if c = '\\' then some '\\'
  else if c = '/' then some '/'
  else if c = 'b' then some '\x08'
  else if c = 'f' then some '\x0c'
  else if c = 'n' then some '\n'
  else if c = 'r' then some '\r'
  else if c = 't' then some '\t'
  else none

def unit? (a b c d : Char) : Option UInt16 := do
  let a ← hexValue? a
  let b ← hexValue? b
  let c ← hexValue? c
  let d ← hexValue? d
  pure (UInt16.ofNat (((a * 16 + b) * 16 + c) * 16 + d))

/-- The text from behind the opening quote to the closing one, which must be the last character. -/
def body? : List Char → Option (List Char)
  | [] => none
  | ['"'] => some []
  | '\\' :: 'u' :: a :: b :: c :: d :: '\\' :: 'u' :: e :: f :: g :: h :: rest =>
    match unit? a b c d with
    | none => none
    | some u =>
      if Utf16.isHigh u then
        match unit? e f g h with
        | none => none
        | some v => if Utf16.isLow v then (body? rest).map (Utf16.pair u v :: ·) else none
      else if Utf16.isLow u then none
      else (body? ('\\' :: 'u' :: e :: f :: g :: h :: rest)).map (Char.ofNat u.toNat :: ·)
  | '\\' :: 'u' :: a :: b :: c :: d :: rest =>
    match unit? a b c d with
    | none => none
    | some u =>
      if Utf16.isHigh u || Utf16.isLow u then none
      else (body? rest).map (Char.ofNat u.toNat :: ·)
  | '\\' :: c :: rest =>
    match short? c with
    | none => none
    | some x => (body? rest).map (x :: ·)
  | c :: rest =>
    if c = '"' ∨ c.toNat < 0x20 then none else (body? rest).map (c :: ·)

def decode? : List Char → Option (List Char)
  | '"' :: rest => body? rest
  | _ => none

end HopProbe.Script.JsonString
