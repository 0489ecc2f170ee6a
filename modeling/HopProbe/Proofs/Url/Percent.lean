import HopProbe.Proofs.Text.Natural
import HopProbe.Proofs.Text.Spelling
import HopProbe.Proofs.Text.Utf8
import HopProbe.Url.Percent

/-!
# Reading what was escaped

A byte is read back from a percent sign and its two digits, in letters of
either case. Escapes begin with a character that is no digit, so that none is
read across the end of another.
-/

set_option autoImplicit false

namespace HopProbe.Url.Percent
open HopProbe.Text

/-- The ways to escape a byte. -/
inductive Escapes : UInt8 → List Char → Prop
  | hex {b : UInt8} {first second : Char} {high low : Nat} (isHigh : hexValue? first = some high)
    (isLow : hexValue? second = some low) (sum : b.toNat = high * 16 + low) :
    Escapes b ['%', first, second]

theorem hexValue_ascii {c : Char} {n : Nat} (h : hexValue? c = some n) :
    c.toNat < 0x80 ∧ c ≠ '%' ∧ c ≠ '+' ∧ c ≠ '&' ∧ c ≠ '=' := by
  have range := (hexValue_range h).1
  refine ⟨by omega, ?_, ?_, ?_, ?_⟩ <;> rintro rfl <;> revert range <;> decide

theorem hexValue_hexDigitUpper {n : Nat} (h : n < 16) : hexValue? (hexDigitUpper n) = some n := by
  have all : ∀ n : Fin 16, hexValue? (hexDigitUpper n) = some n.val := by decide
  exact all ⟨n, h⟩

theorem escapes_escape (b : UInt8) : Escapes b (escape b) := by
  have bound := b.toNat_lt
  exact .hex (hexValue_hexDigitUpper (by omega)) (hexValue_hexDigitUpper (by omega)) (by omega)

theorem ne_of_mem_escape {b : UInt8} {way : List Char} (h : Escapes b way) :
    ∀ c ∈ way, c ≠ '+' ∧ c ≠ '&' ∧ c ≠ '=' := by
  cases h with
  | hex isHigh isLow sum =>
    obtain ⟨-, -, first⟩ := hexValue_ascii isHigh
    obtain ⟨-, -, second⟩ := hexValue_ascii isLow
    intro c hc
    simp only [List.mem_cons, List.not_mem_nil, or_false] at hc
    rcases hc with rfl | rfl | rfl
    · decide
    · exact first
    · exact second

theorem decodeBytes_cons {b : UInt8} (h : b ≠ 0x25) (rest : List UInt8) :
    decodeBytes (b :: rest) = b :: decodeBytes rest := by
  rw [decodeBytes]
  intro x y more same
  exact absurd same h

theorem decodeBytes_hex {a b x : UInt8} (h : hexByte? a b = some x) (rest : List UInt8) :
    decodeBytes (0x25 :: a :: b :: rest) = x :: decodeBytes rest := by
  rw [decodeBytes, h]

theorem hexByte_of_digits {first second : Char} {high low : Nat}
    (isHigh : hexValue? first = some high) (isLow : hexValue? second = some low) :
    hexByte? (UInt8.ofNat first.toNat) (UInt8.ofNat second.toNat) =
      some (UInt8.ofNat (high * 16 + low)) := by
  have char {c : Char} {n : Nat} (h : hexValue? c = some n) :
      Char.ofNat (UInt8.ofNat c.toNat).toNat = c := by
    have ascii := (hexValue_ascii h).1
    rw [Utf8.toNat_ofNat_of_lt (by omega), Char.ofNat_toNat]
  rw [hexByte?, char isHigh, char isLow, isHigh, isLow]
  rfl

theorem decodeBytes_escape {b : UInt8} {way : List Char} (h : Escapes b way) (rest : List UInt8) :
    decodeBytes (Utf8.encode way ++ rest) = b :: decodeBytes rest := by
  cases h with
  | @hex first second high low isHigh isLow sum =>
    have bytes : Utf8.encode ['%', first, second] =
        [0x25, UInt8.ofNat first.toNat, UInt8.ofNat second.toNat] := by
      simp only [Utf8.encode, List.flatMap_cons, List.flatMap_nil,
        Utf8.encodeChar_ascii (hexValue_ascii isHigh).1, Utf8.encodeChar_ascii (hexValue_ascii isLow).1]
      rfl
    have whole : UInt8.ofNat (high * 16 + low) = b := by rw [← sum, UInt8.ofNat_toNat]
    rw [bytes, List.cons_append, List.cons_append, List.cons_append, List.nil_append,
      decodeBytes_hex (hexByte_of_digits isHigh isLow), whole]

theorem decodeBytes_escapes {bs : List UInt8} {way : List Char} (h : Spelled Escapes [] bs way)
    (rest : List UInt8) : decodeBytes (Utf8.encode way ++ rest) = bs ++ decodeBytes rest := by
  induction h with
  | nil => rfl
  | cons first more ih =>
    rw [Utf8.encode_append, List.append_assoc, decodeBytes_escape first, ih]
    rfl

theorem decodeBytes_append {bs : List UInt8} (h : 0x25 ∉ bs) (rest : List UInt8) :
    decodeBytes (bs ++ rest) = bs ++ decodeBytes rest := by
  induction bs with
  | nil => rfl
  | cons b bs ih =>
    have other : b ≠ 0x25 := fun e => h (by simp [e])
    rw [List.cons_append, decodeBytes_cons other, ih fun hm => h (by simp [hm])]
    rfl

end HopProbe.Url.Percent
