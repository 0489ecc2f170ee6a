/-!
# UTF-8

A character is one to four bytes. Reading keeps a state between bytes: either
none is owed, or a number of continuation bytes is, the next of them within
given bounds. The bounds after E0, ED, F0 and F4 exclude overlong forms,
surrogates and values above U+10FFFF, so a sequence is refused at the first
byte that no character continues.
-/

set_option autoImplicit false

namespace HopProbe.Text.Utf8

def encodeChar (c : Char) : List UInt8 :=
  let n := c.toNat
  if n < 0x80 then [UInt8.ofNat n]
  else if n < 0x800 then [UInt8.ofNat (0xC0 + n / 64), UInt8.ofNat (0x80 + n % 64)]
  else if n < 0x10000 then
    [UInt8.ofNat (0xE0 + n / 4096), UInt8.ofNat (0x80 + n / 64 % 64), UInt8.ofNat (0x80 + n % 64)]
  else
    [UInt8.ofNat (0xF0 + n / 262144), UInt8.ofNat (0x80 + n / 4096 % 64),
      UInt8.ofNat (0x80 + n / 64 % 64), UInt8.ofNat (0x80 + n % 64)]

def encode (cs : List Char) : List UInt8 := cs.flatMap encodeChar

def bytes (s : String) : List UInt8 := encode s.toList

inductive State where
  | between
  /-- `more + 1` bytes are owed, the next from `low` to `high`; `bits` is read so far. -/
  | within (more low high bits : Nat)
  deriving DecidableEq, Repr

def begin (b : UInt8) : List (Option Char) × State :=
  let n := b.toNat
  if n < 0x80 then ([some (Char.ofNat n)], .between)
  else if n < 0xC2 then ([none], .between)
  else if n < 0xE0 then ([], .within 0 0x80 0xBF (n - 0xC0))
  else if n = 0xE0 then ([], .within 1 0xA0 0xBF 0)
  else if n = 0xED then ([], .within 1 0x80 0x9F 0xD)
  else if n < 0xF0 then ([], .within 1 0x80 0xBF (n - 0xE0))
  else if n = 0xF0 then ([], .within 2 0x90 0xBF 0)
  else if n < 0xF4 then ([], .within 2 0x80 0xBF (n - 0xF0))
  else if n = 0xF4 then ([], .within 2 0x80 0x8F 4)
  else ([none], .between)

/-- One byte. A byte that cannot continue the character leaves what was read
as one malformed piece and is read again as a beginning. -/
def step : State → UInt8 → List (Option Char) × State
  | .between, b => begin b
  | .within more low high bits, b =>
    if low ≤ b.toNat ∧ b.toNat ≤ high then
      let bits := bits * 64 + (b.toNat - 0x80)
      match more with
      | 0 => ([some (Char.ofNat bits)], .between)
      | more + 1 => ([], .within more 0x80 0xBF bits)
    else
      let (out, next) := begin b
      (none :: out, next)

/-- The characters of a byte string; `none` stands for a malformed piece. -/
def scan : State → List UInt8 → List (Option Char)
  | .between, [] => []
  | .within .., [] => [none]
  | s, b :: bs =>
    let (out, next) := step s b
    out ++ scan next bs

def decodeLossy (bs : List UInt8) : List Char :=
  (scan .between bs).map (·.getD '\uFFFD')

def decode? (bs : List UInt8) : Option (List Char) :=
  (scan .between bs).mapM id

def textLossy (bs : List UInt8) : String := String.ofList (decodeLossy bs)

def text? (bs : List UInt8) : Option String := (decode? bs).map String.ofList

theorem encode_append (a b : List Char) : encode (a ++ b) = encode a ++ encode b := by
  simp [encode]

end HopProbe.Text.Utf8
