import HopProbe.Proofs.Script.Lines
import HopProbe.Proofs.Text.Edges
import HopProbe.Proofs.Text.Spelling
import HopProbe.Proofs.Text.Utf16
import Mathlib.Tactic.SplitIfs

/-!
# The grammar of string literals

A literal is a text between quotes, each character of it written in one of its
ways: as it is, by the escape of one letter, by its number, or by the numbers
of its two surrogates. Decoding finds a text just where there is one.
-/

set_option autoImplicit false

namespace HopProbe.Script
open HopProbe.Text

namespace JsonString

def letters : List (Char × Char) :=
  [('"', '"'), ('\\', '\\'), ('/', '/'), ('b', '\x08'), ('f', '\x0c'), ('n', '\n'), ('r', '\r'),
    ('t', '\t')]

inductive Digits : Nat → List Char → Prop
  | four {a b c d : Char} {w x y z : Nat} (first : hexValue? a = some w)
    (second : hexValue? b = some x) (third : hexValue? c = some y) (last : hexValue? d = some z) :
    Digits (w * 4096 + x * 256 + y * 16 + z) [a, b, c, d]

/-- The ways to write a character between the quotes. -/
inductive Writes : Char → List Char → Prop
  | bare {c : Char} (visible : 0x20 ≤ c.toNat) (quote : c ≠ '"') (slash : c ≠ '\\') : Writes c [c]
  | letter {c e : Char} (known : (e, c) ∈ letters) : Writes c ['\\', e]
  | number {c : Char} {ds : List Char} (digits : Digits c.toNat ds) : Writes c ('\\' :: 'u' :: ds)
  | pair {c : Char} {high low : Nat} {ds es : List Char} (first : Digits high ds)
    (second : Digits low es) (isHigh : 0xD800 ≤ high ∧ high < 0xDC00)
    (isLow : 0xDC00 ≤ low ∧ low < 0xE000)
    (sum : c.toNat = 0x10000 + (high - 0xD800) * 0x400 + (low - 0xDC00)) :
    Writes c ('\\' :: 'u' :: ds ++ '\\' :: 'u' :: es)

abbrev Written : List Char → List Char → Prop := Spelled Writes ['"']

/-- A literal and the text that it denotes. -/
def Denotes (literal text : List Char) : Prop := ∃ rest, literal = '"' :: rest ∧ Written text rest

theorem digits_lt {n : Nat} {ds : List Char} (h : Digits n ds) : n < 65536 := by
  obtain ⟨first, second, third, last⟩ := h
  have := (hexValue_range first).2
  have := (hexValue_range second).2
  have := (hexValue_range third).2
  have := (hexValue_range last).2
  omega

theorem unit?_eq_some_iff {a b c d : Char} {u : UInt16} :
    unit? a b c d = some u ↔ Digits u.toNat [a, b, c, d] := by
  simp only [unit?, Option.bind_eq_bind, Option.bind_eq_some_iff, Option.pure_def,
    Option.some.injEq]
  constructor
  · rintro ⟨w, first, x, second, y, third, z, last, rfl⟩
    have bound := digits_lt (.four first second third last)
    rw [Utf16.toNat_ofNat_of_lt (by omega)]
    rw [show ((w * 16 + x) * 16 + y) * 16 + z = w * 4096 + x * 256 + y * 16 + z by omega]
    exact .four first second third last
  · intro h
    generalize hn : u.toNat = n at h
    cases h with
    | @four _ _ _ _ w x y z first second third last =>
      refine ⟨w, first, x, second, y, third, z, last, ?_⟩
      rw [show ((w * 16 + x) * 16 + y) * 16 + z = u.toNat by omega, UInt16.ofNat_toNat]

theorem unit_of_digits {n : Nat} {ds : List Char} (h : Digits n ds) :
    ∃ a b c d u, ds = [a, b, c, d] ∧ unit? a b c d = some u ∧ u.toNat = n := by
  have value := Utf16.toNat_ofNat_of_lt (digits_lt h)
  cases h with
  | @four a b c d w x y z first second third last =>
    refine ⟨a, b, c, d, _, rfl, unit?_eq_some_iff.mpr ?_, value⟩
    rw [value]
    exact .four first second third last

theorem short?_eq_some_iff {e c : Char} : short? e = some c ↔ (e, c) ∈ letters := by
  simp only [short?, letters]
  split_ifs <;> simp_all [eq_comm]

theorem writes_number {u : UInt16} {ds : List Char} (digits : Digits u.toNat ds)
    (high : Utf16.isHigh u = false) (low : Utf16.isLow u = false) :
    Writes (Char.ofNat u.toNat) ('\\' :: 'u' :: ds) := by
  have bound := u.toNat_lt
  simp only [Utf16.isHigh, Utf16.isLow, Bool.and_eq_false_iff, decide_eq_false_iff_not] at high low
  have value : (Char.ofNat u.toNat).toNat = u.toNat := Utf8.toNat_char (by omega)
  exact .number (by rwa [value])

theorem writes_pair {u v : UInt16} {ds es : List Char} (first : Digits u.toNat ds)
    (second : Digits v.toNat es) (high : Utf16.isHigh u = true) (low : Utf16.isLow v = true) :
    Writes (Utf16.pair u v) ('\\' :: 'u' :: ds ++ '\\' :: 'u' :: es) := by
  simp only [Utf16.isHigh, Utf16.isLow, Bool.and_eq_true, decide_eq_true_eq] at high low
  exact .pair first second high low (Utf8.toNat_char (by omega))

theorem written_of_body {cs text : List Char} (h : body? cs = some text) : Written text cs := by
  fun_induction body? cs generalizing text with
  | case1 | case3 | case4 | case6 | case7 | case9 | case10 | case12 | case14 => simp at h
  | case2 =>
    cases h
    exact .nil
  | case5 a b c d e f g i rest u hu high v hv low ih =>
    obtain ⟨t, ht, rfl⟩ := Option.map_eq_some_iff.mp h
    exact .cons (writes_pair (unit?_eq_some_iff.mp hu) (unit?_eq_some_iff.mp hv) high low) (ih ht)
  | case8 a b c d e f g i rest u hu high low ih =>
    obtain ⟨t, ht, rfl⟩ := Option.map_eq_some_iff.mp h
    simp only [Bool.not_eq_true] at high low
    exact .cons (writes_number (unit?_eq_some_iff.mp hu) high low) (ih ht)
  | case11 a b c d rest _ u hu single ih =>
    obtain ⟨t, ht, rfl⟩ := Option.map_eq_some_iff.mp h
    simp only [Bool.or_eq_true, not_or, Bool.not_eq_true] at single
    exact .cons (writes_number (unit?_eq_some_iff.mp hu) single.1 single.2) (ih ht)
  | case13 c rest _ _ x hx ih =>
    obtain ⟨t, ht, rfl⟩ := Option.map_eq_some_iff.mp h
    exact .cons (.letter (short?_eq_some_iff.mp hx)) (ih ht)
  | case15 c rest _ _ _ escape plain ih =>
    obtain ⟨t, ht, rfl⟩ := Option.map_eq_some_iff.mp h
    have slash : c ≠ '\\' := by
      intro hc
      cases rest with
      | nil => simp [body?] at ht
      | cons d rest => exact escape d rest hc rfl
    exact .cons (.bare (by omega) (fun hc => plain (.inl hc)) slash) (ih ht)

theorem body_bare {c : Char} (visible : 0x20 ≤ c.toNat) (quote : c ≠ '"') (slash : c ≠ '\\')
    (rest : List Char) : body? (c :: rest) = (body? rest).map (c :: ·) := by
  rw [body?]
  · rw [if_neg (by simp [quote]; omega)]
  all_goals simp_all

theorem body_letter {e c : Char} (known : short? e = some c) (rest : List Char) :
    body? ('\\' :: e :: rest) = (body? rest).map (c :: ·) := by
  have other : e ≠ 'u' := by
    rintro rfl
    contradiction
  rw [body?]
  · rw [known]
  all_goals simp_all

theorem body_number {a b c d : Char} {u : UInt16} (digits : unit? a b c d = some u)
    (high : Utf16.isHigh u = false) (low : Utf16.isLow u = false) (rest : List Char) :
    body? ('\\' :: 'u' :: a :: b :: c :: d :: rest) =
      (body? rest).map (Char.ofNat u.toNat :: ·) := by
  -- A number that another may follow is looked at together with it.
  by_cases another : ∃ e f g i more, rest = '\\' :: 'u' :: e :: f :: g :: i :: more
  · obtain ⟨e, f, g, i, more, rfl⟩ := another
    rw [body?, digits]
    simp [high, low]
  · rw [body?, digits]
    · simp [high, low]
    · intro e f g i more same
      exact another ⟨e, f, g, i, more, same⟩

theorem body_pair {a b c d e f g i : Char} {u v : UInt16} (first : unit? a b c d = some u)
    (second : unit? e f g i = some v)
    (high : Utf16.isHigh u = true) (low : Utf16.isLow v = true) (rest : List Char) :
    body? ('\\' :: 'u' :: a :: b :: c :: d :: '\\' :: 'u' :: e :: f :: g :: i :: rest) =
      (body? rest).map (Utf16.pair u v :: ·) := by
  rw [body?, first]
  simp [high, second, low]

theorem body_append {c : Char} {w : List Char} (h : Writes c w) (rest : List Char) :
    body? (w ++ rest) = (body? rest).map (c :: ·) := by
  cases h with
  | bare visible quote slash => exact body_bare visible quote slash rest
  | letter known => exact body_letter (short?_eq_some_iff.mpr known) rest
  | number digits =>
    obtain ⟨a, b, d, e, u, rfl, unit, value⟩ := unit_of_digits digits
    have range := Utf8.char_range c
    have high : Utf16.isHigh u = false := by
      simp only [Utf16.isHigh, value, Bool.and_eq_false_iff, decide_eq_false_iff_not]
      omega
    have low : Utf16.isLow u = false := by
      simp only [Utf16.isLow, value, Bool.and_eq_false_iff, decide_eq_false_iff_not]
      omega
    have read := body_number unit high low rest
    rwa [value, Char.ofNat_toNat] at read
  | pair first second isHigh isLow sum =>
    obtain ⟨a, b, d, e, u, rfl, unit, value⟩ := unit_of_digits first
    obtain ⟨f, g, i, j, v, rfl, next, nextValue⟩ := unit_of_digits second
    have high : Utf16.isHigh u = true := by
      simpa only [Utf16.isHigh, value, Bool.and_eq_true, decide_eq_true_eq] using isHigh
    have low : Utf16.isLow v = true := by
      simpa only [Utf16.isLow, nextValue, Bool.and_eq_true, decide_eq_true_eq] using isLow
    have read := body_pair unit next high low rest
    rwa [Utf16.pair, value, nextValue, ← sum, Char.ofNat_toNat] at read

theorem body_eq_some_iff {cs text : List Char} : body? cs = some text ↔ Written text cs := by
  constructor
  · exact written_of_body
  · intro h
    induction h with
    | nil => rfl
    | cons first more ih => rw [body_append first, ih, Option.map_some]

/-- A text is decoded just where a literal denotes it. -/
theorem decode_eq_some_iff {literal text : List Char} :
    decode? literal = some text ↔ Denotes literal text := by
  unfold decode? Denotes
  split
  · rw [body_eq_some_iff]
    simp
  · rename_i other
    simp only [reduceCtorEq, false_iff, not_exists, not_and]
    intro rest opened
    exact absurd opened (other rest)

theorem decode_eq_none_iff {cs : List Char} :
    decode? cs = none ↔ ∀ text, ¬ Denotes cs text := by
  rw [Option.eq_none_iff_forall_ne_some]
  simp only [ne_eq, decode_eq_some_iff]

theorem Denotes.edged {literal text : List Char} (h : Denotes literal text) :
    Edged isBlank literal := by
  obtain ⟨rest, rfl, written⟩ := h
  obtain ⟨front, rfl⟩ := written.suffix
  constructor
  · intro c hc
    obtain rfl : '"' = c := by simpa using hc
    rfl
  · intro c hc
    rw [← List.cons_append, List.getLast?_append] at hc
    obtain rfl : '"' = c := by simpa using hc
    rfl

end JsonString

theorem unwrapped_literal {literal text : List Char} (h : JsonString.Denotes literal text) :
    unwrapped literal = text := by
  have whole : trimmed literal = literal := strip_edged h.edged
  rw [unwrapped, whole, JsonString.decode_eq_some_iff.mpr h, Option.getD_some]

theorem unwrapped_of_no_literal {body : List Char}
    (h : ∀ text, ¬ JsonString.Denotes (trimmed body) text) : unwrapped body = body := by
  rw [unwrapped, JsonString.decode_eq_none_iff.mpr h, Option.getD_none]

end HopProbe.Script
