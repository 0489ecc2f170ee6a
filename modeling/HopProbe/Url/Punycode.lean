/-!
# Punycode

A label with characters above ASCII is written as its ASCII characters and
the insertions of the others, in ascending order. Each insertion is the
number of positions skipped since the last one, in digits of base 36 whose
thresholds adapt to the sizes seen.
-/

set_option autoImplicit false

namespace HopProbe.Url.Punycode

def digit (d : Nat) : Char :=
  if d < 26 then Char.ofNat (0x61 + d) else Char.ofNat (0x30 + (d - 26))

def value? (c : Char) : Option Nat :=
  let n := c.toNat
  if 0x61 ≤ n ∧ n ≤ 0x7A then some (n - 0x61)
  else if 0x41 ≤ n ∧ n ≤ 0x5A then some (n - 0x41)
  else if 0x30 ≤ n ∧ n ≤ 0x39 then some (n - 0x30 + 26)
  else none

/-- The threshold of the digit at `position`, which counts in steps of 36. -/
def threshold (position bias : Nat) : Nat :=
  if position ≤ bias then 1 else if bias + 26 ≤ position then 26 else position - bias

def shrink (delta : Nat) : Nat × Nat :=
  if 455 < delta then
    let (rest, count) := shrink (delta / 35)
    (rest, count + 36)
  else (delta, 0)
termination_by delta
decreasing_by exact Nat.div_lt_self (by omega) (by omega)

def adapt (delta length : Nat) (first : Bool) : Nat :=
  let scaled := if first then delta / 700 else delta / 2
  let (rest, count) := shrink (scaled + scaled / length)
  count + 36 * rest / (rest + 38)

def encodeNumber (bias position n : Nat) : List Char :=
  let t := threshold position bias
  if h : n < t then [digit n]
  else digit (t + (n - t) % (36 - t)) :: encodeNumber bias (position + 36) ((n - t) / (36 - t))
termination_by n
decreasing_by
  have ht : 1 ≤ threshold position bias := by simp only [threshold]; split <;> (try split) <;> omega
  have : threshold position bias ≤ n := Nat.le_of_not_lt h
  exact Nat.lt_of_le_of_lt (Nat.div_le_self ..) (by omega)

structure Writer where
  out : List Char
  delta : Nat
  bias : Nat
  written : Nat

def passChar (basic m : Nat) (w : Writer) (c : Char) : Writer :=
  if c.toNat < m then { w with delta := w.delta + 1 }
  else if c.toNat = m then
    ⟨w.out ++ encodeNumber w.bias 36 w.delta, 0, adapt w.delta (w.written + 1) (w.written == basic),
      w.written + 1⟩
  else w

def insertions (label : List Char) (basic : Nat) : List Nat → Nat → Writer → Writer
  | [], _, w => w
  | m :: ms, n, w =>
    let w := label.foldl (passChar basic m) { w with delta := w.delta + (m - n) * (w.written + 1) }
    insertions label basic ms (m + 1) { w with delta := w.delta + 1 }

def isBasic (c : Char) : Bool := c.toNat < 0x80

def inserted (label : List Char) : List Nat :=
  (((label.filter (! isBasic ·)).map Char.toNat).mergeSort (· ≤ ·)).eraseDups

def encode (label : List Char) : List Char :=
  let basic := label.filter isBasic
  let start := if basic.isEmpty then [] else basic ++ ['-']
  (insertions label basic.length (inserted label) 128 ⟨start, 0, 72, basic.length⟩).out

/-- Numbers stay below two to the 32nd, and so do the weights of their digits. -/
def bound : Nat := 4294967296

def decodeNumber (bias : Nat) : Nat → Nat → Nat → List Char → Option (Nat × List Char)
  | _, _, _, [] => none
  | position, weight, n, c :: cs => do
    let d ← value? c
    let t := threshold position bias
    let n := n + d * weight
    if bound ≤ n then none
    else if d < t then some (n, cs)
    else if bound ≤ weight * (36 - t) then none
    else decodeNumber bias (position + 36) (weight * (36 - t)) n cs

/-- Continues a label with the insertions that the text holds. The fuel is the
number of characters left; each insertion takes at least one. -/
def insertAll : Nat → Nat → Nat → Nat → List Char → List Char → Option (List Char)
  | _, _, _, _, label, [] => some label
  | 0, _, _, _, _, _ => none
  | fuel + 1, n, i, bias, label, cs => do
    let (total, rest) ← decodeNumber bias 36 1 i cs
    let length := label.length + 1
    let n := n + total / length
    if n < 0xD800 ∨ (0xDFFF < n ∧ n < 0x110000) then
      let place := total % length
      insertAll fuel n (place + 1) (adapt (total - i) length (i == 0))
        (label.take place ++ Char.ofNat n :: label.drop place) rest
    else none

/-- What stands before and after the last hyphen. A hyphen with nothing before
it separates nothing. -/
def parts (cs : List Char) : List Char × List Char :=
  let tail := cs.reverse.takeWhile (· ≠ '-')
  if cs.length ≤ tail.length + 1 then ([], cs)
  else (cs.take (cs.length - tail.length - 1), tail.reverse)

def decode? (cs : List Char) : Option (List Char) :=
  let (basic, digits) := parts cs
  if basic.all isBasic then insertAll digits.length 128 0 72 basic digits else none

end HopProbe.Url.Punycode
