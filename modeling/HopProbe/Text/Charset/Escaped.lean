import HopProbe.Text.Charset.Step

/-!
# Japanese text of seven bits

Escape sequences say what the bytes behind them stand for: ASCII, its Roman
variant, half-width katakana, or characters of two bytes. Two sequences with
nothing between them are a fault.
-/

set_option autoImplicit false

namespace HopProbe.Text.Charset.Escaped

inductive Mode where
  | ascii
  | roman
  | katakana
  | kanji
  deriving DecidableEq, Repr

def Mode.ofEscape? (a b : UInt8) : Option Mode :=
  match a.toNat, b.toNat with
  | 0x28, 0x42 => some .ascii
  | 0x28, 0x4A => some .roman
  | 0x28, 0x49 => some .katakana
  | 0x24, 0x40 => some .kanji
  | 0x24, 0x42 => some .kanji
  | _, _ => none

def isEscape (b : UInt8) : Bool := b.toNat == 0x1B

def single? (mode : Mode) (b : UInt8) : Option Char :=
  let n := b.toNat
  match mode with
  | .katakana => if 0x21 ≤ n ∧ n ≤ 0x5F then some (Char.ofNat (0xFF61 + (n - 0x21))) else none
  | .roman =>
    if n = 0x5C then some '¥' else if n = 0x7E then some '‾' else plain? n
  | _ => plain? n
where
  plain? (n : Nat) : Option Char :=
    if n < 0x80 ∧ n ≠ 0x0E ∧ n ≠ 0x0F then some (Char.ofNat n) else none

def isCell (b : UInt8) : Bool := isIn 0x21 0x7E b

def kanji? (a b : UInt8) : Option Char :=
  kanjiIndex.at? ((a.toNat - 0x21) * 94 + (b.toNat - 0x21))

/-- Reads on in a mode. `switched` tells that an escape sequence stands right
before; `fuel` counts the bytes left. -/
def read : Nat → Mode → Bool → List UInt8 → List Char
  | 0, _, _, _ => []
  | _, _, _, [] => []
  | fuel + 1, mode, switched, b :: rest =>
    if isEscape b then escape fuel mode switched rest
    else if mode = .kanji then
      if isCell b then
        match rest with
        | [] => broken
        | c :: rest' =>
          if isEscape c then broken ++ read fuel mode false rest
          else if isCell c then
            ((kanji? b c).map fun k => [k]).getD broken ++ read fuel mode false rest'
          else broken ++ read fuel mode false rest'
      else broken ++ read fuel mode false rest
    else ((single? mode b).map fun c => [c]).getD broken ++ read fuel mode false rest
where
  escape (fuel : Nat) (mode : Mode) (switched : Bool) (rest : List UInt8) : List Char :=
    match rest with
    | a :: b :: rest' =>
      match Mode.ofEscape? a b with
      | some next => (if switched then broken else []) ++ read fuel next true rest'
      | none => broken ++ read fuel mode false rest
    | _ => broken ++ read fuel mode false rest

def decode (bs : List UInt8) : List Char := read bs.length .ascii false bs

end HopProbe.Text.Charset.Escaped
