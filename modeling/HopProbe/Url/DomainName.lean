import HopProbe.Text.Cut
import HopProbe.Text.Utf8
import HopProbe.Url.Name.Direction
import HopProbe.Url.Name.Joining
import HopProbe.Url.Name.Mapping
import HopProbe.Url.Punycode

/-!
# Names of hosts

A name is mapped as a whole and then cut into labels. A label has two forms,
one in plain characters and one in ASCII, where an encoded label begins with
`xn--`. A label that comes encoded must stand for a label that is in order
and needs to be encoded.
-/

set_option autoImplicit false

namespace HopProbe.Url
open HopProbe.Text

def isForbiddenAscii (c : Char) : Bool :=
  c.toNat ≤ 0x20 || c.toNat == 0x7F ||
    ['#', '%', '/', ':', '<', '>', '?', '@', '[', '\\', ']', '^', '|'].contains c

def isForbiddenInDomain (c : Char) : Bool :=
  c.toNat < 0x80 && !(c.isLower || c.isDigit || c == '-' || c == '.')

def encodedMark : List Char := ['x', 'n', '-', '-']

/-- The longest label that is encoded, and the longest encoding that is read. -/
def labelLimit : Nat := 1000

def encodingLimit : Nat := 2000

namespace Label

def isInOrder (label : List Char) : Bool :=
  !(label.head?.any Name.isMark) && Name.joinersInPlace [] label && label.length ≤ labelLimit

def ofEncoding? (digits : List Char) : Option (List Char) :=
  if digits.getLast?.all (· == '-') || encodingLimit < digits.length then none
  else match Punycode.decode? digits with
    | none => none
    | some label =>
      if label.all Name.isStable && Name.mapped? label == some label && isInOrder label then
        some label
      else none

def plain? (label : List Char) : Option (List Char) :=
  match stripStart encodedMark label with
  | some digits => if label.all Punycode.isBasic then ofEncoding? digits else none
  | none => if label.all Punycode.isBasic || isInOrder label then some label else none

def encoded (label : List Char) : List Char :=
  if label.all Punycode.isBasic then label else encodedMark ++ Punycode.encode label

end Label

def plainLabels? (isForbidden : Char → Bool) (name : List Char) : Option (List (List Char)) := do
  let mapped ← Name.mapped? name
  if mapped.any isForbidden then none
  else
    let labels ← (pieces '.' mapped).mapM Label.plain?
    if Name.readOneWay labels then some labels else none

def asciiName? (isForbidden : Char → Bool) (name : List Char) : Option (List Char) :=
  (plainLabels? isForbidden name).map fun labels => joined ['.'] (labels.map Label.encoded)

def plainName? (isForbidden : Char → Bool) (name : List Char) : Option (List Char) :=
  (plainLabels? isForbidden name).map (joined ['.'])

end HopProbe.Url
