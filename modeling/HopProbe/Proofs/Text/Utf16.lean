import HopProbe.Proofs.Text.Utf8
import HopProbe.Text.Utf16

/-!
# Reading what was written in UTF-16

A character is read back from its one or two units, whatever units follow, and
a unit from its two bytes. So a text is read back from its bytes.
-/

set_option autoImplicit false

namespace HopProbe.Text.Utf16

theorem toNat_ofNat_of_lt {n : Nat} (h : n < 65536) : (UInt16.ofNat n).toNat = n := by
  simp only [UInt16.toNat_ofNat']
  omega

theorem decode_cons {u : UInt16} (h : isHigh u = false) (rest : List UInt16) :
    decode (u :: rest) = single u :: decode rest := by
  cases rest with
  | nil => rfl
  | cons v rest => simp [decode, h]

theorem decode_pair {u v : UInt16} (high : isHigh u = true) (low : isLow v = true)
    (rest : List UInt16) : decode (u :: v :: rest) = pair u v :: decode rest := by
  simp [decode, high, low]

theorem decode_encodeChar (c : Char) (rest : List UInt16) :
    decode (encodeChar c ++ rest) = c :: decode rest := by
  have range := Utf8.char_range c
  have same : Char.ofNat c.toNat = c := Char.ofNat_toNat c
  by_cases one : c.toNat < 0x10000
  · have unit := toNat_ofNat_of_lt one
    have alone : isHigh (UInt16.ofNat c.toNat) = false ∧ isLow (UInt16.ofNat c.toNat) = false := by
      simp only [isHigh, isLow, unit, Bool.and_eq_false_iff, decide_eq_false_iff_not]
      omega
    simp only [encodeChar, one, if_true, List.cons_append, List.nil_append]
    rw [decode_cons alone.1, single, alone.1, alone.2, unit, same]
    rfl
  · have first := toNat_ofNat_of_lt (n := 0xD800 + (c.toNat - 0x10000) / 0x400) (by omega)
    have second := toNat_ofNat_of_lt (n := 0xDC00 + (c.toNat - 0x10000) % 0x400) (by omega)
    have high : isHigh (UInt16.ofNat (0xD800 + (c.toNat - 0x10000) / 0x400)) = true := by
      simp only [isHigh, first, Bool.and_eq_true, decide_eq_true_eq]
      omega
    have low : isLow (UInt16.ofNat (0xDC00 + (c.toNat - 0x10000) % 0x400)) = true := by
      simp only [isLow, second, Bool.and_eq_true, decide_eq_true_eq]
      omega
    simp only [encodeChar, one, if_false, List.cons_append, List.nil_append]
    rw [decode_pair high low, pair, first, second]
    rw [show 0x10000 + (0xD800 + (c.toNat - 0x10000) / 0x400 - 0xD800) * 0x400 +
      (0xDC00 + (c.toNat - 0x10000) % 0x400 - 0xDC00) = c.toNat by omega, same]

theorem decode_encode (cs : List Char) : decode (encode cs) = cs := by
  induction cs with
  | nil => rfl
  | cons c cs ih =>
    rw [encode, List.flatMap_cons, decode_encodeChar]
    exact congrArg (c :: ·) ih

theorem unitsLE_bytesLE (us : List UInt16) : unitsLE (bytesLE us) = us := by
  induction us with
  | nil => rfl
  | cons u us ih =>
    have low := Utf8.toNat_ofNat_of_lt (n := u.toNat % 256) (by omega)
    have high := Utf8.toNat_ofNat_of_lt (n := u.toNat / 256) (by have := u.toNat_lt; omega)
    have whole : UInt16.ofNat (u.toNat % 256 + 256 * (u.toNat / 256)) = u := by
      rw [Nat.mod_add_div, UInt16.ofNat_toNat]
    rw [bytesLE, List.flatMap_cons, List.cons_append, List.cons_append, List.nil_append, unitsLE,
      low, high, whole]
    exact congrArg (u :: ·) ih

theorem length_bytesLE (us : List UInt16) : (bytesLE us).length = 2 * us.length := by
  induction us with
  | nil => rfl
  | cons u us ih =>
    rw [bytesLE] at ih
    simp only [bytesLE, List.flatMap_cons, List.length_append, ih, List.length_cons, List.length_nil]
    omega

theorem decodeLE_bytesLE (cs : List Char) : decodeLE (bytesLE (encode cs)) = cs := by
  have even : (bytesLE (encode cs)).length % 2 ≠ 1 := by
    rw [length_bytesLE]
    omega
  rw [decodeLE, unitsLE_bytesLE, decode_encode, tail, if_neg even, List.append_nil]

theorem head_of_bytesLE_mark {cs : List Char} {rest : List UInt8}
    (h : bytesLE (encode cs) = 0xFF :: 0xFE :: rest) : cs.head? = some '\uFEFF' := by
  have units : encode cs = 0xFEFF :: unitsLE rest := by
    rw [← unitsLE_bytesLE (encode cs), h, unitsLE]
    rfl
  have read : cs = '\uFEFF' :: decode (unitsLE rest) := by
    rw [← decode_encode cs, units, decode_cons (by decide)]
    rfl
  rw [read, List.head?_cons]

/-!
## Units that stand alone

Reading UTF-16 and writing it again puts U+FFFD in place of each surrogate
that stands alone, and nothing else is changed. Whether one stands alone, the
unit before it and the unit behind it decide. So no other unit is lost, added
or moved.
-/

def PairAt (us : List UInt16) (i : Nat) : Prop :=
  ∃ high low, us[i]? = some high ∧ us[i + 1]? = some low ∧ isHigh high = true ∧ isLow low = true

def Lone (us : List UInt16) (i : Nat) : Prop :=
  ∃ u, us[i]? = some u ∧
    (isHigh u = true ∧ ¬ PairAt us i ∨ isLow u = true ∧ ∀ j, j + 1 = i → ¬ PairAt us j)

/-- The units of a text that was read, unit by unit. -/
def Mended (us read : List UInt16) : Prop :=
  ∀ i, (Lone us i → read[i]? = some 0xFFFD) ∧ (¬ Lone us i → read[i]? = us[i]?)

theorem isLow_eq_false {u : UInt16} (h : isHigh u = true) : isLow u = false := by
  simp only [isHigh, isLow, Bool.and_eq_true, decide_eq_true_eq, Bool.and_eq_false_iff,
    decide_eq_false_iff_not] at h ⊢
  omega

theorem pairAt_succ (u : UInt16) (us : List UInt16) (i : Nat) :
    PairAt (u :: us) (i + 1) ↔ PairAt us i := by
  simp only [PairAt, List.getElem?_cons_succ]

theorem pairAt_zero (u v : UInt16) (us : List UInt16) :
    PairAt (u :: v :: us) 0 ↔ isHigh u = true ∧ isLow v = true := by
  simp [PairAt]

theorem not_pairAt_of_isLow {u : UInt16} (h : isLow u = true) (us : List UInt16) :
    ¬ PairAt (u :: us) 0 := by
  rintro ⟨high, low, first, -, up, -⟩
  obtain rfl : u = high := by simpa using first
  simp [isLow_eq_false up] at h

/-- A unit in front decides nothing about the others unless it makes a pair with the first. -/
theorem lone_succ {u : UInt16} {us : List UInt16} {i : Nat} (h : i = 0 → ¬ PairAt (u :: us) 0) :
    Lone (u :: us) (i + 1) ↔ Lone us i := by
  have before : (∀ j, j + 1 = i + 1 → ¬ PairAt (u :: us) j) ↔ ∀ j, j + 1 = i → ¬ PairAt us j := by
    cases i with
    | zero => simp [h rfl]
    | succ i => simp [pairAt_succ]
  simp only [Lone, List.getElem?_cons_succ, pairAt_succ, before]

theorem lone_zero {u : UInt16} {us : List UInt16} (h : ¬ PairAt (u :: us) 0) :
    Lone (u :: us) 0 ↔ isHigh u = true ∨ isLow u = true := by
  simp [Lone, h]

theorem encodeChar_single (u : UInt16) :
    encodeChar (single u) = [if isHigh u || isLow u then 0xFFFD else u] := by
  unfold single
  by_cases half : (isHigh u || isLow u) = true
  · rw [if_pos half, if_pos half]
    rfl
  · rw [if_neg half, if_neg half]
    simp only [isHigh, isLow, Bool.or_eq_true, Bool.and_eq_true, decide_eq_true_eq] at half
    have bound := u.toNat_lt
    have same : (Char.ofNat u.toNat).toNat = u.toNat := Utf8.toNat_char (by omega)
    rw [encodeChar, same, if_pos bound, UInt16.ofNat_toNat]

theorem encodeChar_pair {u v : UInt16} (high : isHigh u = true) (low : isLow v = true) :
    encodeChar (pair u v) = [u, v] := by
  simp only [isHigh, isLow, Bool.and_eq_true, decide_eq_true_eq] at high low
  have same : (pair u v).toNat = 0x10000 + (u.toNat - 0xD800) * 0x400 + (v.toNat - 0xDC00) :=
    Utf8.toNat_char (by omega)
  have two : ¬ (pair u v).toNat < 0x10000 := by omega
  have first : 0xD800 + ((pair u v).toNat - 0x10000) / 0x400 = u.toNat := by omega
  have second : 0xDC00 + ((pair u v).toNat - 0x10000) % 0x400 = v.toNat := by omega
  rw [encodeChar, if_neg two, first, second, UInt16.ofNat_toNat, UInt16.ofNat_toNat]

theorem Mended.single {u : UInt16} {us read : List UInt16} (h : ¬ PairAt (u :: us) 0)
    (more : Mended us read) : Mended (u :: us) (encodeChar (single u) ++ read) := by
  rw [encodeChar_single, List.singleton_append]
  intro i
  cases i with
  | zero =>
    simp only [lone_zero h, List.getElem?_cons_zero, Bool.or_eq_true]
    exact ⟨fun half => by rw [if_pos half], fun whole => by rw [if_neg whole]⟩
  | succ i =>
    rw [lone_succ fun _ => h]
    exact more i

theorem Mended.pair {u v : UInt16} {us read : List UInt16} (high : isHigh u = true)
    (low : isLow v = true) (more : Mended us read) :
    Mended (u :: v :: us) (encodeChar (pair u v) ++ read) := by
  have together : PairAt (u :: v :: us) 0 := (pairAt_zero u v us).mpr ⟨high, low⟩
  rw [encodeChar_pair high low]
  intro i
  match i with
  | 0 =>
    have kept : ¬ Lone (u :: v :: us) 0 := by simp [Lone, together, isLow_eq_false high]
    simp [kept]
  | 1 =>
    have notHigh : isHigh v = false := by
      cases hv : isHigh v with
      | false => rfl
      | true => simp [isLow_eq_false hv] at low
    have kept : ¬ Lone (u :: v :: us) 1 := by simp [Lone, together, notHigh]
    simp [kept]
  | i + 2 =>
    rw [lone_succ (by simp), lone_succ fun _ => not_pairAt_of_isLow low us]
    exact more i

/-- What is read holds each unit at its place, or U+FFFD for one that stands alone. -/
theorem mended_decode (us : List UInt16) : Mended us (encode (decode us)) := by
  fun_induction decode us with
  | case1 => simp [Mended, Lone, encode]
  | case2 u =>
    have alone : ¬ PairAt [u] 0 := by simp [PairAt]
    have none : Mended [] [] := by simp [Mended, Lone]
    exact Mended.single alone none
  | case3 u v us both ih =>
    rw [Bool.and_eq_true] at both
    exact Mended.pair both.1 both.2 ih
  | case4 u v us other ih =>
    have apart : ¬ PairAt (u :: v :: us) 0 := by simpa [pairAt_zero] using other
    exact Mended.single apart ih

theorem Mended.length_eq {us read : List UInt16} (h : Mended us read) :
    read.length = us.length := by
  have there (i : Nat) : read[i]? = none ↔ us[i]? = none := by
    by_cases alone : Lone us i
    · obtain ⟨u, found, -⟩ := id alone
      simp [(h i).1 alone, found]
    · rw [(h i).2 alone]
  have upper := (there us.length).mpr (by simp)
  have lower := (there read.length).mp (by simp)
  rw [List.getElem?_eq_none_iff] at upper lower
  omega

def unitAt? (bs : List UInt8) (i : Nat) : Option UInt16 := do
  let low ← bs[2 * i]?
  let high ← bs[2 * i + 1]?
  some (UInt16.ofNat (low.toNat + 256 * high.toNat))

theorem length_of_unpaired {bs : List UInt8}
    (h : ∀ low high rest, bs = low :: high :: rest → False) : bs.length ≤ 1 := by
  match bs, h with
  | [], _ => exact Nat.zero_le 1
  | [_], _ => exact Nat.le_refl 1
  | low :: high :: rest, h => exact (h low high rest rfl).elim

theorem getElem?_unitsLE (bs : List UInt8) (i : Nat) : (unitsLE bs)[i]? = unitAt? bs i := by
  induction bs using unitsLE.induct generalizing i with
  | case1 low high rest ih =>
    cases i with
    | zero => rfl
    | succ i =>
      rw [unitsLE, List.getElem?_cons_succ, ih]
      rfl
  | case2 bs short =>
    have few := length_of_unpaired short
    have outside : bs[2 * i + 1]? = none := List.getElem?_eq_none (by omega)
    rw [unitsLE.eq_2 bs short, unitAt?, outside]
    cases bs[2 * i]? <;> rfl

theorem length_unitsLE (bs : List UInt8) : (unitsLE bs).length = bs.length / 2 := by
  fun_induction unitsLE bs with
  | case1 low high rest ih =>
    simp only [List.length_cons, ih]
    omega
  | case2 bs short =>
    have few := length_of_unpaired short
    rw [List.length_nil]
    omega

theorem encode_tail (bs : List UInt8) :
    encode (tail bs) = if bs.length % 2 = 1 then [0xFFFD] else [] := by
  unfold tail
  split <;> rfl

end HopProbe.Text.Utf16
