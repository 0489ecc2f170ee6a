import HopProbe.Text.Charset.Japanese
import HopProbe.Text.Charset.Korean
import HopProbe.Text.Charset.Simplified
import HopProbe.Text.Charset.Traditional

/-!
# Charsets of several bytes

A text is read character by character, each from one byte and some of those
behind it. What is no character becomes U+FFFD; an ASCII byte that a broken
character ends with is read again, so it is never swallowed.
-/

set_option autoImplicit false

namespace HopProbe.Text.Charset

/-- The characters that a byte begins, and how many more bytes they take. -/
abbrev Step := UInt8 → List UInt8 → List Char × Nat

def broken : List Char := ['\uFFFD']

def decodeWith (step : Step) (bs : List UInt8) : List Char :=
  match bs with
  | [] => []
  | b :: rest =>
    let (cs, taken) := step b rest
    cs ++ decodeWith step (rest.drop taken)
termination_by bs.length
decreasing_by
  simp only [List.length_drop, List.length_cons]
  omega

def isIn (first last : Nat) (b : UInt8) : Bool := first ≤ b.toNat && b.toNat ≤ last

def isAscii (b : UInt8) : Bool := b.toNat < 0x80

def asciiChar (b : UInt8) : Char := Char.ofNat b.toNat

def pair (find? : Nat → Option (List Char)) : List UInt8 → List Char × Nat
  | [] => (broken, 0)
  | t :: _ =>
    match find? t.toNat with
    | some cs => (cs, 1)
    | none => (broken, if isAscii t then 0 else 1)

def one (c : Option Char) : Option (List Char) := c.map fun c => [c]

/-- The place of a second byte in a row that leaves out one code. -/
def column? (last gap : Nat) (t : Nat) : Option Nat :=
  if 0x40 ≤ t ∧ t < gap then some (t - 0x40)
  else if gap < t ∧ t ≤ last then some (t - 0x41)
  else none

def fourBytes (a b c d : Nat) : Option Char :=
  let n := (((a - 0x81) * 10 + (b - 0x30)) * 126 + (c - 0x81)) * 10 + (d - 0x30)
  (fourByteTable.find? n).bind fun r => (r.imageOf n).head?

def gbStep : Step := fun b rest =>
  if isAscii b then ([asciiChar b], 0)
  else if b.toNat = 0x80 then (['€'], 0)
  else if b.toNat = 0xFF then (broken, 0)
  else match rest with
    | [] => (broken, 0)
    | c :: rest' =>
      if isIn 0x30 0x39 c then
        match rest' with
        | [] => (broken, 1)
        | [d] => if isIn 0x81 0xFE d then (broken, 2) else (broken, 0)
        | d :: e :: _ =>
          if isIn 0x81 0xFE d && isIn 0x30 0x39 e then
            (((one (fourBytes b.toNat c.toNat d.toNat e.toNat)).getD broken), 3)
          else (broken, 0)
      else pair (fun t => do
        one (hanziIndex.at? ((b.toNat - 0x81) * 190 + (← column? 0xFE 0x7F t)))) rest

/-- Four codes stand for a letter and a mark. -/
def bigPairs : List (Nat × List Char) := [
  (1133, ['Ê', '\u0304']), (1135, ['Ê', '\u030C']), (1164, ['ê', '\u0304']), (1166, ['ê', '\u030C'])]

def bigPlace? (lead t : Nat) : Option Nat :=
  if 0x40 ≤ t ∧ t ≤ 0x7E then some ((lead - 0x81) * 157 + (t - 0x40))
  else if 0xA1 ≤ t ∧ t ≤ 0xFE then some ((lead - 0x81) * 157 + (t - 0x62))
  else none

def bigStep : Step := fun b rest =>
  if isAscii b then ([asciiChar b], 0)
  else if isIn 0x81 0xFE b then
    pair (fun t => do
      let place ← bigPlace? b.toNat t
      match bigPairs.find? fun (p, _) => p == place with
      | some (_, cs) => some cs
      | none => one (bigIndex.at? place)) rest
  else (broken, 0)

def rowPlace? (lead t : Nat) : Option Nat :=
  if 0xA1 ≤ lead ∧ lead ≤ 0xFE ∧ 0xA1 ≤ t ∧ t ≤ 0xFE then some ((lead - 0xA1) * 94 + (t - 0xA1))
  else none

def halfWidth (t : Nat) : Option Char :=
  if 0xA1 ≤ t ∧ t ≤ 0xDF then some (Char.ofNat (0xFF61 + (t - 0xA1))) else none

def eucJpStep : Step := fun b rest =>
  if isAscii b then ([asciiChar b], 0)
  else if b.toNat = 0x8E then pair (fun t => one (halfWidth t)) rest
  else if b.toNat = 0x8F then
    match rest with
    | [] => (broken, 0)
    | c :: rest' =>
      if isIn 0xA1 0xFE c then
        let (cs, taken) := pair (fun t => do
          one (supplementIndex.at? (← rowPlace? c.toNat t))) rest'
        (cs, taken + 1)
      else (broken, if isAscii c then 0 else 1)
  else if isIn 0xA1 0xFE b then
    pair (fun t => do one (kanjiIndex.at? (← rowPlace? b.toNat t))) rest
  else (broken, 0)

def shiftedChar? (place : Nat) : Option Char :=
  if 8836 ≤ place ∧ place ≤ 10715 then some (Char.ofNat (0xE000 + (place - 8836)))
  else kanjiIndex.at? place

def shiftJisStep : Step := fun b rest =>
  if b.toNat ≤ 0x80 then ([asciiChar b], 0)
  else match halfWidth b.toNat with
    | some c => ([c], 0)
    | none =>
      if isIn 0x81 0x9F b || isIn 0xE0 0xFC b then
        let row := if b.toNat < 0xA0 then b.toNat - 0x81 else b.toNat - 0xC1
        pair (fun t => do one (shiftedChar? (row * 188 + (← column? 0xFC 0x7F t)))) rest
      else (broken, 0)

def eucKrStep : Step := fun b rest =>
  if isAscii b then ([asciiChar b], 0)
  else if isIn 0x81 0xFE b then
    pair (fun t =>
      if 0x41 ≤ t ∧ t ≤ 0xFE then one (hangulIndex.at? ((b.toNat - 0x81) * 190 + (t - 0x41)))
      else none) rest
  else (broken, 0)

end HopProbe.Text.Charset
