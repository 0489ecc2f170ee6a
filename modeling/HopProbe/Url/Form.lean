import HopProbe.Text.Cut
import HopProbe.Url.Percent

/-!
# URL-encoded forms

A form is a list of named values. Ampersands stand between them, an equals
sign between name and value, and a plus sign for a space.
-/

set_option autoImplicit false

namespace HopProbe.Url.Form
open HopProbe.Text

def component (bs : List UInt8) : List Char :=
  Utf8.decodeLossy (Percent.decodeBytes (bs.map fun b => if b = 0x2B then 0x20 else b))

/-- A piece without an equals sign is a name with an empty value. -/
def pair (bs : List UInt8) : List Char × List Char :=
  match cutFirst 0x3D bs with
  | some (name, value) => (component name, component value)
  | none => (component bs, [])

def pairs (bs : List UInt8) : List (List Char × List Char) :=
  ((pieces 0x26 bs).filter (! ·.isEmpty)).map pair

def isPlain (c : Char) : Bool :=
  c.isAlphanum || c == '*' || c == '-' || c == '.' || c == '_'

def encodeChar (c : Char) : List Char :=
  if c = ' ' then ['+'] else Percent.encodeChar (! isPlain ·) c

def encodeComponent (cs : List Char) : List Char := cs.flatMap encodeChar

def encode (form : List (List Char × List Char)) : List Char :=
  joined ['&'] (form.map fun (name, value) => encodeComponent name ++ '=' :: encodeComponent value)

end HopProbe.Url.Form
