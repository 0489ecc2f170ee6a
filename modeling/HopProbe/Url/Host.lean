import HopProbe.Net.IpAddress
import HopProbe.Url.DomainName
import HopProbe.Url.Error
import HopProbe.Url.Percent

/-!
# Hosts

A host is a name or an address. A special host whose last label is a number
must be an address of version 4, in any of its historical spellings; brackets
hold an address of version 6; any other host of a scheme that is not special
is kept as it is.
-/

set_option autoImplicit false

namespace HopProbe.Url
open HopProbe.Text

inductive Host where
  | name (text : String)
  | v4 (a b c d : UInt8)
  | v6 (groups : List Nat)
  deriving DecidableEq, Repr

namespace Host

def text : Host → String
  | .name s => s
  | .v4 a b c d => String.ofList (IpAddress.dotted a b c d)
  | .v6 groups => String.ofList ('[' :: IpAddress.compressed groups ++ [']'])

def isEmpty : Host → Bool
  | .name s => s == ""
  | _ => false

def readBase? (base : Nat) (cs : List Char) : Option Nat :=
  cs.foldlM (fun n c =>
    match hexValue? c with
    | some d => if d < base then some (n * base + d) else none
    | none => none) 0

/-- A number in base ten, eight behind a zero, or sixteen behind `0x`. -/
def number? (cs : List Char) : Option Nat :=
  match cs with
  | [] => none
  | '0' :: x :: rest =>
    if x = 'x' ∨ x = 'X' then (if rest.isEmpty then some 0 else readBase? 16 rest)
    else readBase? 8 (x :: rest)
  | cs => readBase? 10 cs

def isDecimal (cs : List Char) : Bool := !cs.isEmpty && cs.all Char.isDigit

/-- The pieces between dots, without an empty last one. -/
def dottedParts (name : List Char) : List (List Char) :=
  let ps := pieces '.' name
  if 1 < ps.length ∧ ps.getLast? = some [] then ps.dropLast else ps

def endsInNumber (name : List Char) : Bool :=
  match (dottedParts name).getLast? with
  | some last => isDecimal last || (number? last).isSome
  | none => false

def byte (n : Nat) : UInt8 := UInt8.ofNat (n % 256)

/-- The last number fills all bytes that the others leave. -/
def v4? (name : List Char) : Option Host := do
  let parts := dottedParts name
  let numbers ← if parts.length ≤ 4 then parts.mapM number? else none
  let last ← numbers.getLast?
  let front := numbers.dropLast
  if front.all (· < 256) ∧ last < twoTo (8 * (4 - front.length)) then
    let n := (front.zipIdx.foldl (fun n (x, i) => n + x * twoTo (8 * (3 - i))) last)
    some (.v4 (byte (n / 16777216)) (byte (n / 65536)) (byte (n / 256)) (byte n))
  else none

def ofV6? (cs : List Char) : Option Host :=
  match IpAddress.v6? cs with
  | some (.v6 a b c d e f g h) => some (.v6 (IpAddress.groups a b c d e f g h))
  | _ => none

def bracketed (cs : List Char) : Except ParseError Host :=
  match cs.getLast? with
  | some ']' =>
    match ofV6? cs.dropLast with
    | some host => .ok host
    | none => .error .badV6
  | _ => .error .badV6

def special (cs : List Char) : Except ParseError Host :=
  match cs with
  | '[' :: rest => bracketed rest
  | cs =>
    match (Utf8.decode? (Percent.decode cs)).bind (asciiName? isForbiddenAscii) with
    | none => .error .badName
    | some [] => .error .emptyHost
    | some domain =>
      if endsInNumber domain then
        match v4? domain with
        | some host => .ok host
        | none => .error .badV4
      else .ok (.name (String.ofList domain))

def isForbiddenPlain (c : Char) : Bool :=
  ['\x00', '\t', '\n', '\r', ' ', '#', '/', ':', '<', '>', '?', '@', '[', '\\', ']', '^', '|'].contains c

def plain (cs : List Char) : Except ParseError Host :=
  match cs with
  | '[' :: rest => bracketed rest
  | cs =>
    if cs.any isForbiddenPlain then .error .badHostCharacter
    else .ok (.name (String.ofList (Percent.encode Percent.controls cs)))

end Host
end HopProbe.Url
