import HopProbe.Text.Utf8
import Mathlib.Tactic.SplitIfs

/-!
# Reading what was written in UTF-8

A character between two others is read back from its bytes, whatever bytes
follow. So a text is read back from its bytes, and a byte order mark at their
front is the mark at the front of the text. No other bytes are read as a text:
the bounds on each byte leave one spelling for a character.
-/

set_option autoImplicit false

namespace HopProbe.Text.Utf8

theorem toNat_ofNat_of_lt {n : Nat} (h : n < 256) : (UInt8.ofNat n).toNat = n := by
  simp only [UInt8.toNat_ofNat']
  omega

theorem toNat_char {n : Nat} (h : n < 0xD800 ∨ 0xDFFF < n ∧ n < 0x110000) :
    (Char.ofNat n).toNat = n := by
  have valid : n.isValidChar := h
  rw [Char.ofNat, dif_pos valid]
  rfl

theorem char_range (c : Char) :
    c.toNat < 0xD800 ∨ 0xDFFF < c.toNat ∧ c.toNat < 0x110000 := by
  have valid := c.valid
  simpa [UInt32.isValidChar, Nat.isValidChar] using valid

theorem scan_last {low high bits : Nat} {b : UInt8} (h : low ≤ b.toNat ∧ b.toNat ≤ high)
    (rest : List UInt8) : scan (.within 0 low high bits) (b :: rest) =
      some (Char.ofNat (bits * 64 + (b.toNat - 0x80))) :: scan .between rest := by
  simp [scan, step, h]

theorem scan_more {more low high bits : Nat} {b : UInt8} (h : low ≤ b.toNat ∧ b.toNat ≤ high)
    (rest : List UInt8) : scan (.within (more + 1) low high bits) (b :: rest) =
      scan (.within more 0x80 0xBF (bits * 64 + (b.toNat - 0x80))) rest := by
  simp [scan, step, h]

theorem scan_lead {b : UInt8} {next : State} (h : begin b = ([], next)) (rest : List UInt8) :
    scan .between (b :: rest) = scan next rest := by
  simp [scan, step, h]

theorem begin_one {b : UInt8} (h : b.toNat < 0x80) :
    begin b = ([some (Char.ofNat b.toNat)], .between) := by
  simp [begin, h]

theorem begin_two {b : UInt8} (low : 0xC2 ≤ b.toNat) (high : b.toNat < 0xE0) :
    begin b = ([], .within 0 0x80 0xBF (b.toNat - 0xC0)) := by
  have h1 : ¬ b.toNat < 0x80 := by omega
  have h2 : ¬ b.toNat < 0xC2 := by omega
  simp only [begin, h1, h2, high, if_true, if_false]

theorem begin_three {b : UInt8} (low : 0xE0 ≤ b.toNat) (high : b.toNat < 0xF0) :
    begin b = ([], .within 1 (if b.toNat = 0xE0 then 0xA0 else 0x80)
      (if b.toNat = 0xED then 0x9F else 0xBF) (b.toNat - 0xE0)) := by
  have h1 : ¬ b.toNat < 0x80 := by omega
  have h2 : ¬ b.toNat < 0xC2 := by omega
  have h3 : ¬ b.toNat < 0xE0 := by omega
  simp only [begin, h1, h2, h3, high, if_true, if_false]
  by_cases e0 : b.toNat = 0xE0
  · simp [e0]
  · by_cases ed : b.toNat = 0xED
    · simp [ed]
    · simp [e0, ed]

theorem begin_four {b : UInt8} (low : 0xF0 ≤ b.toNat) (high : b.toNat ≤ 0xF4) :
    begin b = ([], .within 2 (if b.toNat = 0xF0 then 0x90 else 0x80)
      (if b.toNat = 0xF4 then 0x8F else 0xBF) (b.toNat - 0xF0)) := by
  have h1 : ¬ b.toNat < 0x80 := by omega
  have h2 : ¬ b.toNat < 0xC2 := by omega
  have h3 : ¬ b.toNat < 0xE0 := by omega
  have h4 : b.toNat ≠ 0xE0 := by omega
  have h5 : b.toNat ≠ 0xED := by omega
  have h6 : ¬ b.toNat < 0xF0 := by omega
  simp only [begin, h1, h2, h3, h4, h5, h6, if_false]
  by_cases f0 : b.toNat = 0xF0
  · simp [f0]
  · by_cases f4 : b.toNat = 0xF4
    · simp [f4]
    · have h7 : b.toNat < 0xF4 := by omega
      simp [f0, f4, h7]

theorem scan_encodeChar (c : Char) (rest : List UInt8) :
    scan .between (encodeChar c ++ rest) = some c :: scan .between rest := by
  have range := char_range c
  have same : Char.ofNat c.toNat = c := Char.ofNat_toNat c
  have byte {n : Nat} (h : n < 256) : (UInt8.ofNat n).toNat = n := toNat_ofNat_of_lt h
  by_cases one : c.toNat < 0x80
  · have hb := byte (n := c.toNat) (by omega)
    simp only [encodeChar, one, if_true, List.cons_append, List.nil_append]
    rw [scan, step, begin_one (by omega), hb, same]
    rfl
  by_cases two : c.toNat < 0x800
  · have hb := byte (n := 0xC0 + c.toNat / 64) (by omega)
    have ht := byte (n := 0x80 + c.toNat % 64) (by omega)
    simp only [encodeChar, one, two, if_true, if_false, List.cons_append, List.nil_append]
    rw [scan_lead (begin_two (by omega) (by omega)), scan_last (by omega), hb, ht]
    rw [show (0xC0 + c.toNat / 64 - 0xC0) * 64 + (0x80 + c.toNat % 64 - 0x80) = c.toNat by omega, same]
  by_cases three : c.toNat < 0x10000
  · have hb := byte (n := 0xE0 + c.toNat / 4096) (by omega)
    have hs := byte (n := 0x80 + c.toNat / 64 % 64) (by omega)
    have ht := byte (n := 0x80 + c.toNat % 64) (by omega)
    simp only [encodeChar, one, two, three, if_true, if_false, List.cons_append, List.nil_append]
    rw [scan_lead (begin_three (by omega) (by omega)), scan_more, scan_last (by omega), hb, hs, ht]
    · rw [show ((0xE0 + c.toNat / 4096 - 0xE0) * 64 + (0x80 + c.toNat / 64 % 64 - 0x80)) * 64 +
        (0x80 + c.toNat % 64 - 0x80) = c.toNat by omega, same]
    · rw [hb, hs]
      split_ifs <;> omega
  · have hb := byte (n := 0xF0 + c.toNat / 262144) (by omega)
    have hs := byte (n := 0x80 + c.toNat / 4096 % 64) (by omega)
    have hr := byte (n := 0x80 + c.toNat / 64 % 64) (by omega)
    have ht := byte (n := 0x80 + c.toNat % 64) (by omega)
    simp only [encodeChar, one, two, three, if_false, List.cons_append, List.nil_append]
    rw [scan_lead (begin_four (by omega) (by omega)), scan_more, scan_more (by omega),
      scan_last (by omega), hb, hs, hr, ht]
    · rw [show (((0xF0 + c.toNat / 262144 - 0xF0) * 64 + (0x80 + c.toNat / 4096 % 64 - 0x80)) * 64 +
        (0x80 + c.toNat / 64 % 64 - 0x80)) * 64 + (0x80 + c.toNat % 64 - 0x80) = c.toNat by omega,
        same]
    · rw [hb, hs]
      split_ifs <;> omega

theorem scan_encode (cs : List Char) (rest : List UInt8) :
    scan .between (encode cs ++ rest) = cs.map some ++ scan .between rest := by
  induction cs with
  | nil => rfl
  | cons c cs ih =>
    rw [encode, List.flatMap_cons, List.append_assoc, scan_encodeChar]
    exact congrArg (some c :: ·) ih

/-- A text in front of any bytes is read back, and the bytes are read as if alone. -/
theorem decodeLossy_encode_append (cs : List Char) (rest : List UInt8) :
    decodeLossy (encode cs ++ rest) = cs ++ decodeLossy rest := by
  have chars : cs.map ((·.getD '\uFFFD') ∘ some) = cs := by
    induction cs with
    | nil => rfl
    | cons c cs ih => exact congrArg (c :: ·) ih
  rw [decodeLossy, scan_encode, List.map_append, List.map_map, chars]
  rfl

theorem decodeLossy_encode (cs : List Char) : decodeLossy (encode cs) = cs := by
  have read := decodeLossy_encode_append cs []
  rw [List.append_nil] at read
  rw [read]
  exact List.append_nil cs

theorem encode_injective : Function.Injective encode := fun cs ds h => by
  rw [← decodeLossy_encode cs, h, decodeLossy_encode]

theorem head_of_encode_mark {cs : List Char} {rest : List UInt8}
    (h : encode cs = 0xEF :: 0xBB :: 0xBF :: rest) :
    ∃ more, cs = '\uFEFF' :: more ∧ encode more = rest := by
  have mark : encode ['\uFEFF'] = [0xEF, 0xBB, 0xBF] := by decide
  have read : cs = '\uFEFF' :: decodeLossy rest := by
    rw [← decodeLossy_encode cs, h]
    have front := decodeLossy_encode_append ['\uFEFF'] rest
    rw [mark] at front
    exact front
  refine ⟨decodeLossy rest, read, ?_⟩
  rw [read, ← List.singleton_append, encode_append, mark] at h
  simpa using h

theorem encodeChar_ascii {c : Char} (h : c.toNat < 0x80) : encodeChar c = [UInt8.ofNat c.toNat] := by
  simp only [encodeChar, h, if_true]

theorem encodeChar_ne_nil (c : Char) : encodeChar c ≠ [] := by
  simp only [encodeChar]
  split_ifs <;> simp

theorem le_of_mem_encodeChar {c : Char} (h : 0x80 ≤ c.toNat) {b : UInt8} (hb : b ∈ encodeChar c) :
    0x80 ≤ b.toNat := by
  have range := char_range c
  have byte {n : Nat} (h : n < 256) : (UInt8.ofNat n).toNat = n := toNat_ofNat_of_lt h
  have one : ¬ c.toNat < 0x80 := by omega
  simp only [encodeChar, one, if_false] at hb
  split_ifs at hb <;> simp only [List.mem_cons, List.not_mem_nil, or_false] at hb
  · rcases hb with rfl | rfl <;> rw [byte (by omega)] <;> omega
  · rcases hb with rfl | rfl | rfl <;> rw [byte (by omega)] <;> omega
  · rcases hb with rfl | rfl | rfl | rfl <;> rw [byte (by omega)] <;> omega

theorem mem_of_ascii_mem_encode {c : Char} (h : c.toNat < 0x80) {cs : List Char}
    (hm : UInt8.ofNat c.toNat ∈ encode cs) : c ∈ cs := by
  obtain ⟨d, hd, hb⟩ := List.mem_flatMap.mp hm
  have byte := toNat_ofNat_of_lt (n := c.toNat) (by omega)
  by_cases ascii : d.toNat < 0x80
  · rw [encodeChar_ascii ascii, List.mem_singleton] at hb
    have values := congrArg UInt8.toNat hb
    rw [byte, toNat_ofNat_of_lt (by omega)] at values
    rwa [Char.toNat_inj.mp values]
  · have beyond := le_of_mem_encodeChar (by omega) hb
    omega

theorem not_mem_encode_of_ascii {c : Char} (h : c.toNat < 0x80) {cs : List Char}
    (outside : c ∉ cs) : UInt8.ofNat c.toNat ∉ encode cs :=
  fun inside => outside (mem_of_ascii_mem_encode h inside)

theorem not_mem_encode (cs : List Char) : (0xFF : UInt8) ∉ encode cs := by
  have other {n : Nat} (h : n < 0xFF) : (0xFF : UInt8) ≠ UInt8.ofNat n := by
    intro e
    have values := congrArg UInt8.toNat e
    rw [toNat_ofNat_of_lt (by omega)] at values
    change 0xFF = n at values
    omega
  intro h
  obtain ⟨c, -, hc⟩ := List.mem_flatMap.mp h
  have range := char_range c
  simp only [encodeChar] at hc
  split_ifs at hc <;> simp only [List.mem_cons, List.not_mem_nil, or_false] at hc
  · exact other (by omega) hc
  · rcases hc with hc | hc <;> exact other (by omega) hc
  · rcases hc with hc | hc | hc <;> exact other (by omega) hc
  · rcases hc with hc | hc | hc | hc <;> exact other (by omega) hc

theorem eq_ofNat {n : Nat} {b : UInt8} (h : n = b.toNat) : UInt8.ofNat n = b := by
  rw [h, UInt8.ofNat_toNat]

theorem last_of_scan {low high bits : Nat} {bs : List UInt8} {cs : List Char}
    (h : scan (.within 0 low high bits) bs = cs.map some) :
    ∃ b rest more, bs = b :: rest ∧ (low ≤ b.toNat ∧ b.toNat ≤ high) ∧
      cs = Char.ofNat (bits * 64 + (b.toNat - 0x80)) :: more ∧
      scan .between rest = more.map some := by
  cases bs with
  | nil => cases cs <;> simp [scan] at h
  | cons b rest =>
    by_cases bounds : low ≤ b.toNat ∧ b.toNat ≤ high
    · rw [scan_last bounds] at h
      cases cs with
      | nil => simp at h
      | cons c more =>
        simp only [List.map_cons, List.cons.injEq, Option.some.injEq] at h
        exact ⟨b, rest, more, rfl, bounds, by rw [h.1], h.2⟩
    · cases cs <;> simp [scan, step, bounds] at h

theorem more_of_scan {more low high bits : Nat} {bs : List UInt8} {cs : List Char}
    (h : scan (.within (more + 1) low high bits) bs = cs.map some) :
    ∃ b rest, bs = b :: rest ∧ (low ≤ b.toNat ∧ b.toNat ≤ high) ∧
      scan (.within more 0x80 0xBF (bits * 64 + (b.toNat - 0x80))) rest = cs.map some := by
  cases bs with
  | nil => cases cs <;> simp [scan] at h
  | cons b rest =>
    by_cases bounds : low ≤ b.toNat ∧ b.toNat ≤ high
    · rw [scan_more bounds] at h
      exact ⟨b, rest, rfl, bounds, h⟩
    · cases cs <;> simp [scan, step, bounds] at h

theorem encodeChar_two {n : Nat} (low : 0x80 ≤ n) (high : n < 0x800) :
    encodeChar (Char.ofNat n) = [UInt8.ofNat (0xC0 + n / 64), UInt8.ofNat (0x80 + n % 64)] := by
  have same := toNat_char (n := n) (by omega)
  have one : ¬ n < 0x80 := by omega
  simp only [encodeChar, same, one, high, if_true, if_false]

theorem encodeChar_three {n : Nat} (low : 0x800 ≤ n) (high : n < 0x10000)
    (valid : n < 0xD800 ∨ 0xDFFF < n) :
    encodeChar (Char.ofNat n) = [UInt8.ofNat (0xE0 + n / 4096), UInt8.ofNat (0x80 + n / 64 % 64),
      UInt8.ofNat (0x80 + n % 64)] := by
  have same := toNat_char (n := n) (by omega)
  have one : ¬ n < 0x80 := by omega
  have two : ¬ n < 0x800 := by omega
  simp only [encodeChar, same, one, two, high, if_true, if_false]

theorem encodeChar_four {n : Nat} (low : 0x10000 ≤ n) (high : n < 0x110000) :
    encodeChar (Char.ofNat n) = [UInt8.ofNat (0xF0 + n / 262144),
      UInt8.ofNat (0x80 + n / 4096 % 64), UInt8.ofNat (0x80 + n / 64 % 64),
      UInt8.ofNat (0x80 + n % 64)] := by
  have same := toNat_char (n := n) (by omega)
  have one : ¬ n < 0x80 := by omega
  have two : ¬ n < 0x800 := by omega
  have three : ¬ n < 0x10000 := by omega
  simp only [encodeChar, same, one, two, three, if_false]

theorem first_of_scan {b : UInt8} {bs : List UInt8} {cs : List Char}
    (h : scan .between (b :: bs) = cs.map some) :
    ∃ c more rest, cs = c :: more ∧ b :: bs = encodeChar c ++ rest ∧
      scan .between rest = more.map some := by
  have bound := b.toNat_lt
  by_cases one : b.toNat < 0x80
  · rw [scan, step, begin_one one] at h
    cases cs with
    | nil => simp at h
    | cons c more =>
      simp only [List.cons_append, List.nil_append, List.map_cons, List.cons.injEq,
        Option.some.injEq] at h
      have same : c.toNat = b.toNat := by rw [← h.1, toNat_char (by omega)]
      refine ⟨c, more, bs, rfl, ?_, h.2⟩
      rw [encodeChar_ascii (by omega), eq_ofNat same]
      rfl
  by_cases early : b.toNat < 0xC2
  · cases cs <;> simp [scan, step, begin, one, early] at h
  by_cases two : b.toNat < 0xE0
  · rw [scan_lead (begin_two (by omega) two)] at h
    obtain ⟨t, rest, more, rfl, bounds, rfl, next⟩ := last_of_scan h
    refine ⟨_, more, rest, rfl, ?_, next⟩
    rw [encodeChar_two (by omega) (by omega), eq_ofNat (b := b) (by omega),
      eq_ofNat (b := t) (by omega)]
    rfl
  by_cases three : b.toNat < 0xF0
  · rw [scan_lead (begin_three (by omega) three)] at h
    obtain ⟨s, rest, rfl, second, h⟩ := more_of_scan h
    obtain ⟨t, rest, more, rfl, third, rfl, next⟩ := last_of_scan h
    refine ⟨_, more, rest, rfl, ?_, next⟩
    have low : b.toNat = 0xE0 → 0xA0 ≤ s.toNat := fun e => by simpa [e] using second.1
    have high : b.toNat = 0xED → s.toNat ≤ 0x9F := fun e => by simpa [e] using second.2
    have inside : 0x80 ≤ s.toNat ∧ s.toNat ≤ 0xBF := by
      refine ⟨Nat.le_trans ?_ second.1, Nat.le_trans second.2 ?_⟩ <;> split_ifs <;> omega
    rw [encodeChar_three (by omega) (by omega) (by omega), eq_ofNat (b := b) (by omega),
      eq_ofNat (b := s) (by omega), eq_ofNat (b := t) (by omega)]
    rfl
  by_cases four : b.toNat ≤ 0xF4
  · rw [scan_lead (begin_four (by omega) four)] at h
    obtain ⟨s, rest, rfl, second, h⟩ := more_of_scan h
    obtain ⟨r, rest, rfl, third, h⟩ := more_of_scan h
    obtain ⟨t, rest, more, rfl, fourth, rfl, next⟩ := last_of_scan h
    refine ⟨_, more, rest, rfl, ?_, next⟩
    have low : b.toNat = 0xF0 → 0x90 ≤ s.toNat := fun e => by simpa [e] using second.1
    have high : b.toNat = 0xF4 → s.toNat ≤ 0x8F := fun e => by simpa [e] using second.2
    have inside : 0x80 ≤ s.toNat ∧ s.toNat ≤ 0xBF := by
      refine ⟨Nat.le_trans ?_ second.1, Nat.le_trans second.2 ?_⟩ <;> split_ifs <;> omega
    rw [encodeChar_four (by omega) (by omega), eq_ofNat (b := b) (by omega),
      eq_ofNat (b := s) (by omega), eq_ofNat (b := r) (by omega), eq_ofNat (b := t) (by omega)]
    rfl
  · have first : ¬ b.toNat < 0xF4 := by omega
    have e0 : b.toNat ≠ 0xE0 := by omega
    have ed : b.toNat ≠ 0xED := by omega
    have f0 : b.toNat ≠ 0xF0 := by omega
    have f4 : b.toNat ≠ 0xF4 := by omega
    cases cs <;> simp [scan, step, begin, one, early, two, three, e0, ed, f0, f4, first] at h

theorem encode_of_scan {bs : List UInt8} {cs : List Char} (h : scan .between bs = cs.map some) :
    bs = encode cs := by
  induction cs generalizing bs with
  | nil =>
    cases bs with
    | nil => rfl
    | cons b bs =>
      obtain ⟨c, more, rest, none, -⟩ := first_of_scan h
      cases none
  | cons c cs ih =>
    cases bs with
    | nil => simp [scan] at h
    | cons b bs =>
      obtain ⟨d, more, rest, same, bytes, next⟩ := first_of_scan h
      obtain ⟨rfl, rfl⟩ := List.cons.inj same
      rw [bytes, ih next]
      rfl

/-- Bytes are read as a text just if they are its bytes. -/
theorem decode?_eq_some_iff {bs : List UInt8} {cs : List Char} :
    decode? bs = some cs ↔ bs = encode cs := by
  have all (read : List (Option Char)) : read.mapM id = some cs ↔ read = cs.map some := by
    induction read generalizing cs with
    | nil => cases cs <;> simp
    | cons o read ih =>
      cases o <;> cases cs <;> simp [List.mapM_cons, Option.bind_eq_some_iff, ih, and_comm, and_assoc]
  rw [decode?, all]
  refine ⟨encode_of_scan, fun h => ?_⟩
  have read := scan_encode cs []
  rw [List.append_nil] at read
  rw [h, read]
  exact List.append_nil _

theorem decode?_encode (cs : List Char) : decode? (encode cs) = some cs :=
  decode?_eq_some_iff.mpr rfl

end HopProbe.Text.Utf8
