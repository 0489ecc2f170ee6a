import HopProbe.Text.Blank
import HopProbe.Text.Numeric
import HopProbe.Text.Utf8
import HopProbe.Url.DomainName

/-!
# Names in the domain system

A name is typed as labels with dots between them. A backslash takes the sting
out of the next character, or stands before three octal digits. Each label is
brought to ASCII on its own, so a dot may be part of one. A name that ends
with a dot is complete.
-/

set_option autoImplicit false

namespace HopProbe
open HopProbe.Text

structure DnsName where
  labels : List (List Char)
  isComplete : Bool
  deriving DecidableEq, Repr

namespace DnsName

inductive Fault where
  | strayCharacter (c : Char)
  | strayDigit (c : Char)
  | badLabel
  | malformedLabel (label : List Char)
  | longLabel (size : Nat)
  | longName (size : Nat)
  deriving DecidableEq, Repr

def maxLabel : Nat := 63

def maxName : Nat := 255

def Fault.message : Fault → String
  | .strayCharacter c => "unrecognized char: " ++ c.toString
  | .strayDigit c => "illegal char: " ++ c.toString
  | .badLabel => "Label contains invalid characters: Err(Errors)"
  | .malformedLabel label => "Malformed label: " ++ String.ofList label
  | .longLabel size => "label bytes exceed " ++ toString maxLabel ++ ": " ++ toString size
  | .longName size => "name label data exceed " ++ toString maxName ++ ": " ++ toString size

def isSafeFirst (c : Char) : Bool := c.isAlphanum || c == '_' || c == '*'

def isSafe (c : Char) : Bool := c.isAlphanum || c == '_' || c == '-'

def asciiLabel (label : List Char) : Except Fault (List Char) :=
  match label with
  | [] => .error (.malformedLabel [])
  | c :: rest =>
    if (isSafeFirst c || c == '.') && rest.all (fun d => isSafe d || d == '.') then
      if label.length ≤ maxLabel then .ok label else .error (.longLabel label.length)
    else .error (.malformedLabel label)

/-- The form in which a typed label is sent. A label that begins with an
underscore names a service and is not mapped. -/
def readLabel (label : List Char) : Except Fault (List Char) :=
  if label = ['*'] then .ok label
  else if label.head? = some '_' then asciiLabel label
  else match Url.asciiName? Url.isForbiddenInDomain label with
    | some ascii => asciiLabel ascii
    | none => .error .badLabel

def sizeOfLabels (labels : List (List Char)) : Nat :=
  labels.foldl (fun size label => size + label.length + 1) 0

def addLabel (labels : List (List Char)) (typed : List Char) :
    Except Fault (List (List Char)) := do
  let labels := labels ++ [← readLabel typed]
  if sizeOfLabels labels ≤ maxName then .ok labels else .error (.longName (sizeOfLabels labels))

/-- What the next character continues. -/
inductive Place where
  | label
  | escape
  | octal (digits : List Nat)

structure Reader where
  labels : List (List Char)
  label : List Char
  place : Place

def octalDigit (c : Char) : Except Fault Nat :=
  if '0' ≤ c ∧ c ≤ '7' then .ok (c.toNat - 48) else .error (.strayDigit c)

def Reader.push (r : Reader) (c : Char) : Except Fault Reader :=
  match r.place with
  | .label =>
    if c = '.' then do return ⟨← addLabel r.labels r.label, [], .label⟩
    else if c = '\\' then .ok { r with place := .escape }
    else if c.toNat < 0x20 ∨ (0x7F ≤ c.toNat ∧ c.toNat < 0xA0) ∨ isBlank c then
      .error (.strayCharacter c)
    else .ok { r with label := r.label ++ [c] }
  | .escape =>
    if isNumeric c then do return { r with place := .octal [← octalDigit c] }
    else .ok { r with label := r.label ++ [c], place := .label }
  | .octal digits =>
    if isNumeric c then do
      let digits := digits ++ [← octalDigit c]
      if digits.length < 3 then return { r with place := .octal digits }
      else
        let n := digits.foldl (fun n d => n * 8 + d) 0
        return { r with label := r.label ++ [Char.ofNat n], place := .label }
    else .error (.strayCharacter c)

/-- An escape that the end cuts short is dropped. -/
def read (typed : List Char) : Except Fault DnsName :=
  if typed = ['.'] then .ok ⟨[], true⟩
  else do
    let r ← typed.foldlM Reader.push ⟨[], [], .label⟩
    let labels ← if r.label.isEmpty then .ok r.labels else addLabel r.labels r.label
    let isComplete := typed.getLast? = some '.' ∧ typed.dropLast.getLast? ≠ some '\\'
    return ⟨labels, isComplete⟩

def wireText (name : DnsName) : String := String.ofList (joined ['.'] name.labels ++ ['.'])

def octalText (n : Nat) : List Char :=
  ['\\', hexDigitLower (n / 64 % 8), hexDigitLower (n / 8 % 8), hexDigitLower (n % 8)]

def byteText (safe : Char → Bool) (b : UInt8) : List Char :=
  let c := Char.ofNat b.toNat
  if b.toNat < 0x80 ∧ safe c then [c]
  else if 0x20 < b.toNat ∧ b.toNat < 0x7F then ['\\', c]
  else octalText b.toNat

def bytesText : List UInt8 → List Char
  | [] => []
  | b :: bs => byteText isSafeFirst b ++ bs.flatMap (byteText fun c => isSafe c)

def labelText (label : List Char) : List Char :=
  match if (stripStart Url.encodedMark label).isSome then Url.plainName? (fun _ => false) label
    else none with
  | some plain => plain
  | none => bytesText (Utf8.encode label)

def text (name : DnsName) : String :=
  String.ofList (joined ['.'] (name.labels.map labelText) ++ if name.isComplete then ['.'] else [])

def ofAnswer (s : String) : DnsName :=
  let labels := pieces '.' s.toList
  ⟨if labels.getLast? = some [] then labels.dropLast else labels, true⟩

def inZone (zone : String) (name : DnsName) : Bool :=
  (pieces '.' zone.toList).isSuffixOf (name.labels.map (·.map Char.toLower))

/-- Names that are never sent to a server. -/
def localZones : List String := [
  "localhost", "127.in-addr.arpa", "invalid", "local", "onion",
  "1.0.0.0.0.0.0.0.0.0.0.0.0.0.0.0.0.0.0.0.0.0.0.0.0.0.0.0.0.0.0.0.ip6.arpa"]

def isLocal (name : DnsName) : Bool := localZones.any (inZone · name)

end DnsName
end HopProbe
