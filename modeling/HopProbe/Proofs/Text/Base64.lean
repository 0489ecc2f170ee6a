import HopProbe.Text.Base64
import HopProbe.Text.Natural
import Mathlib.Tactic.SplitIfs

/-!
# Bytes in base 64

The digits of a text are those of a number in base 64, and its bytes are the
digits of that number in base 256. Padding fills the last group of four; each
sign of it stands for two bits more in the digits than in the bytes. The bytes
are read back from their text, however many are left for the last group.
-/

set_option autoImplicit false

namespace HopProbe.Text.Base64

def alphabet : List Char :=
  "ABCDEFGHIJKLMNOPQRSTUVWXYZabcdefghijklmnopqrstuvwxyz0123456789+/".toList

def number (base : Nat) : Nat → List Nat → Nat := List.foldl fun n d => n * base + d

theorem number_cons (base n d : Nat) (ds : List Nat) :
    number base n (d :: ds) = number base (n * base + d) ds := rfl

/-- A padded text and the bytes that it stands for. -/
def Denotes (text : List Char) (bytes : List UInt8) : Prop :=
  ∃ values padding groups, padding < 3 ∧
    text.map some = values.map (alphabet[·]?) ++ List.replicate padding (some '=') ∧
    values.length + padding = 4 * groups ∧ bytes.length + padding = 3 * groups ∧
    number 64 0 values = number 256 0 (bytes.map UInt8.toNat) * twoTo (2 * padding)

theorem getElem?_alphabet {v : Nat} (h : v < 64) : alphabet[v]? = some (digit v) := by
  have all : ∀ v : Fin 64, alphabet[v.val]? = some (digit v) := by decide +kernel
  exact all ⟨v, h⟩

theorem value?_digit {v : Nat} (h : v < 64) : value? (digit v) = some v := by
  have all : ∀ v : Fin 64, value? (digit v) = some v.val := by decide
  exact all ⟨v, h⟩

theorem digit_ne_padding {v : Nat} (h : v < 64) : digit v ≠ '=' := by
  have all : ∀ v : Fin 64, digit v ≠ '=' := by decide
  exact all ⟨v, h⟩

/-- The digits of bytes and their padding. The number goes on from any other, so that each group
adds to it what its bytes add. -/
theorem digits_of_encode (bytes : List UInt8) :
    ∃ values padding groups, padding < 3 ∧
      (encode bytes).map some = values.map (alphabet[·]?) ++ List.replicate padding (some '=') ∧
      values.length + padding = 4 * groups ∧ bytes.length + padding = 3 * groups ∧
      ∀ n, number 64 n values = number 256 n (bytes.map UInt8.toNat) * twoTo (2 * padding) := by
  fun_induction encode bytes with
  | case1 => exact ⟨[], 0, 0, by simp [number, twoTo]⟩
  | case2 a n =>
    have byte := a.toNat_lt
    refine ⟨[n / 4, n % 4 * 16], 2, 1, by decide, ?_, rfl, rfl, fun m => ?_⟩
    · simp [getElem?_alphabet (v := n / 4) (by omega),
        getElem?_alphabet (v := n % 4 * 16) (by omega)]
    · have spare : twoTo (2 * 2) = 16 := rfl
      simp only [number, List.foldl, List.map, spare]
      omega
  | case3 a b n =>
    have first := a.toNat_lt
    have second := b.toNat_lt
    refine ⟨[n / 1024, n / 16 % 64, n % 16 * 4], 1, 1, by decide, ?_, rfl, rfl, fun m => ?_⟩
    · simp [getElem?_alphabet (v := n / 1024) (by omega),
        getElem?_alphabet (v := n / 16 % 64) (by omega),
        getElem?_alphabet (v := n % 16 * 4) (by omega)]
    · have spare : twoTo (2 * 1) = 4 := rfl
      simp only [number, List.foldl, List.map, spare]
      omega
  | case4 a b c rest n ih =>
    have first := a.toNat_lt
    have second := b.toNat_lt
    have third := c.toNat_lt
    obtain ⟨values, padding, groups, small, text, filled, whole, same⟩ := ih
    refine ⟨n / 262144 :: n / 4096 % 64 :: n / 64 % 64 :: n % 64 :: values, padding, groups + 1,
      small, ?_, ?_, ?_, fun m => ?_⟩
    · simp [getElem?_alphabet (v := n / 262144) (by omega),
        getElem?_alphabet (v := n / 4096 % 64) (by omega),
        getElem?_alphabet (v := n / 64 % 64) (by omega),
        getElem?_alphabet (v := n % 64) (by omega), text]
    · simp only [List.length_cons]
      omega
    · simp only [List.length_cons]
      omega
    · -- The four digits carry on the number as the three bytes do.
      have group : (((m * 64 + n / 262144) * 64 + n / 4096 % 64) * 64 + n / 64 % 64) * 64 + n % 64 =
          ((m * 256 + a.toNat) * 256 + b.toNat) * 256 + c.toNat := by omega
      simp only [number_cons, List.map_cons]
      rw [group, same]

theorem denotes_encode (bytes : List UInt8) : Denotes (encode bytes) bytes := by
  obtain ⟨values, padding, groups, small, text, filled, whole, same⟩ := digits_of_encode bytes
  exact ⟨values, padding, groups, small, text, filled, whole, same 0⟩

section
variable {w x y z : Nat} (hw : w < 64) (hx : x < 64)
include hw hx

theorem decode?_one (full : x % 16 = 0) :
    decode? [digit w, digit x, '=', '='] = some [UInt8.ofNat (w * 4 + x / 16)] := by
  simp only [decode?, value?_digit hw, value?_digit hx, Option.bind_eq_bind, Option.bind_some,
    if_true, true_and, full]

theorem decode?_two (hy : y < 64) (full : y % 4 = 0) :
    decode? [digit w, digit x, digit y, '='] =
      some [UInt8.ofNat (w * 4 + x / 16), UInt8.ofNat (x % 16 * 16 + y / 4)] := by
  simp only [decode?, value?_digit hw, value?_digit hx, value?_digit hy, digit_ne_padding hy,
    Option.bind_eq_bind, Option.bind_some, if_true, if_false, true_and, full]

theorem decode?_three (hy : y < 64) (hz : z < 64) (rest : List Char) :
    decode? (digit w :: digit x :: digit y :: digit z :: rest) =
      (decode? rest).map fun more => UInt8.ofNat (w * 4 + x / 16) ::
        UInt8.ofNat (x % 16 * 16 + y / 4) :: UInt8.ofNat (y % 4 * 64 + z) :: more := by
  rw [decode?]
  simp only [value?_digit hw, value?_digit hx, value?_digit hy, value?_digit hz,
    digit_ne_padding hy, digit_ne_padding hz, Option.bind_eq_bind, Option.bind_some, if_false]
  cases decode? rest <;> rfl

end

theorem decode?_encode (bytes : List UInt8) : decode? (encode bytes) = some bytes := by
  have byte {m : Nat} {a : UInt8} (h : m = a.toNat) : UInt8.ofNat m = a := by
    rw [h, UInt8.ofNat_toNat]
  fun_induction encode bytes with
  | case1 => rfl
  | case2 a n =>
    have first := a.toNat_lt
    rw [decode?_one (by omega) (by omega) (by omega), byte (a := a) (by omega)]
  | case3 a b n =>
    have first := a.toNat_lt
    have second := b.toNat_lt
    rw [decode?_two (by omega) (by omega) (by omega) (by omega), byte (a := a) (by omega),
      byte (a := b) (by omega)]
  | case4 a b c rest n ih =>
    have first := a.toNat_lt
    have second := b.toNat_lt
    have third := c.toNat_lt
    rw [decode?_three (by omega) (by omega) (by omega) (by omega), ih, Option.map_some,
      byte (a := a) (by omega), byte (a := b) (by omega), byte (a := c) (by omega)]

end HopProbe.Text.Base64
