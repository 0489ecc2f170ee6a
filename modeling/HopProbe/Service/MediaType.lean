import HopProbe.Service.MediaType.Table
import HopProbe.Text.Ascii
import HopProbe.Text.Cut

/-!
# Media types of files

The type of a file is told from its extension, in any case of letters. A file
with an unknown extension or none is a sequence of bytes.
-/

set_option autoImplicit false

namespace HopProbe.Service
open HopProbe.Text

def extension? (name : List Char) : Option (List Char) :=
  match cutLast '.' name with
  | some (_ :: _, after) => some after
  | _ => none

/-- The letters of ASCII that a character is equal to when case is set aside. -/
def folded (c : Char) : List Char :=
  match c.toNat with
  | 0xDF | 0x1E9E => ['s', 's']
  | 0x17F => ['s']
  | 0x212A => ['k']
  | 0xFB00 => ['f', 'f']
  | 0xFB01 => ['f', 'i']
  | 0xFB02 => ['f', 'l']
  | 0xFB03 => ['f', 'f', 'i']
  | 0xFB04 => ['f', 'f', 'l']
  | 0xFB05 | 0xFB06 => ['s', 't']
  | _ => [c.toLower]

def typesOfWords (type : String) : List String → List (String × String)
  | [] => []
  | w :: ws =>
    if w.toList.contains '/' then typesOfWords w ws else (w, type) :: typesOfWords type ws

def octets : String := "application/octet-stream"

def typesByExtension : List (String × String) :=
  typesOfWords octets ((knownMediaTypes.splitToList Char.isWhitespace).filter (· != ""))

def mediaTypeOfExtension (extension : List Char) : String :=
  (typesByExtension.lookup (String.ofList (extension.flatMap folded))).getD octets

def mediaTypeOfName (name : List Char) : String :=
  match extension? name with
  | some extension => mediaTypeOfExtension extension
  | none => octets

end HopProbe.Service
