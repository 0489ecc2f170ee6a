import HopProbe.Proofs.Service.Transport
import HopProbe.Proofs.Text.Utf16
import HopProbe.Proofs.Text.Valid

/-!
# Damaged bodies

What a body holds besides text does not reach the text around it. A body is
read without a loss just if all of it is text.

A body in UTF-16 is read unit by unit. What is damaged shows as U+FFFD in its
own place: a surrogate that stands alone, and a last byte without a partner.
All other units are those of the body, so that no damage reaches them.
-/

set_option autoImplicit false

namespace HopProbe.Service
open HopProbe.Text

def Unmarked (bytes : List UInt8) : Prop :=
  ¬ [0xFF, 0xFE] <+: bytes ∧ ¬ [0xEF, 0xBB, 0xBF] <+: bytes

instance : DecidablePred Unmarked := fun _ => inferInstanceAs (Decidable (_ ∧ _))

theorem withoutMark_of_unmarked {bytes : List UInt8} (h : Unmarked bytes) :
    withoutMark bytes = bytes := by
  unfold withoutMark
  split
  · rename_i rest
    exact absurd ⟨rest, rfl⟩ h.2
  · rfl

theorem decodeBody_of_unmarked {contentType : Option String} (narrow : Narrow contentType)
    {bytes : List UInt8} (h : Unmarked bytes) :
    decodeBody contentType bytes = Utf8.decodeLossy bytes := by
  obtain ⟨noForm, narrow⟩ := narrow.declared
  rw [decodeBody_of_no_form noForm]
  unfold characters
  split
  · rename_i rest
    exact absurd ⟨rest, rfl⟩ h.1
  · rw [narrow, if_neg (by simp), withoutMark_of_unmarked h]

/-- Any bytes between two texts are read as if alone, and the texts are read back. Bytes are
lost nowhere just if they are a text. -/
theorem decodeBody_around {contentType : Option String} (narrow : Narrow contentType)
    {bytes : List UInt8} (unmarked : Unmarked bytes) :
    (∀ before after, Unmarked (Utf8.encode before ++ bytes ++ Utf8.encode after) →
      decodeBody contentType (Utf8.encode before ++ bytes ++ Utf8.encode after) =
        before ++ decodeBody contentType bytes ++ after) ∧
    (Utf8.encode (decodeBody contentType bytes) = bytes ↔ Utf8.Valid bytes) := by
  have alone := decodeBody_of_unmarked narrow unmarked
  constructor
  · intro before after whole
    rw [decodeBody_of_unmarked narrow whole, alone, List.append_assoc,
      Utf8.decodeLossy_encode_append, Utf8.decodeLossy_append_encode, List.append_assoc]
  · rw [alone, Utf8.valid_iff]
    constructor
    · intro same
      exact ⟨_, same.symm⟩
    · rintro ⟨text, rfl⟩
      rw [Utf8.decodeLossy_encode]

theorem decodeBody_around_cut_emoji :
    let damage : List UInt8 := [0xBF, 0xED, 0xA0, 0x80, 0xF0, 0x9F, 0x98]
    decodeBody (some "text/plain; charset=utf-8")
        (Utf8.encode ['I', 'é'] ++ damage ++ Utf8.encode ['\uFEFF', '😀']) =
      ['I', 'é', '\uFFFD', '\uFFFD', '\uFFFD', '\uFFFD', '\uFFFD', '\uFEFF', '😀'] ∧
    ¬ Utf8.Valid damage := by
  intro damage
  have narrow : Narrow (some "text/plain; charset=utf-8") := by
    intro declared same
    obtain rfl := Option.some.inj same
    exact ⟨fun h => absurd ((isForm_iff _).mpr h) (by decide),
      fun h => absurd ((declaresUtf16_iff _).mpr h) (by decide)⟩
  have unmarked : Unmarked damage := by decide
  obtain ⟨around, lossless⟩ := decodeBody_around narrow unmarked
  have read : decodeBody (some "text/plain; charset=utf-8") damage =
      ['\uFFFD', '\uFFFD', '\uFFFD', '\uFFFD', '\uFFFD'] := by decide
  refine ⟨?_, fun valid => absurd (lossless.mpr valid) ?_⟩
  · rw [around ['I', 'é'] ['\uFEFF', '😀'] (by decide), read]
    rfl
  · rw [read]
    decide

/-- A body and its bytes of UTF-16: what is behind a mark, or all of a body
without one whose content type declares the charset. -/
inductive Wide : Option String → List UInt8 → List UInt8 → Prop
  | marked (contentType : Option String) (bytes : List UInt8) :
    Wide contentType (0xFF :: 0xFE :: bytes) bytes
  | declared {declared : String} (wide : DeclaresUtf16 declared) {bytes : List UInt8}
    (bare : ¬ [0xFF, 0xFE] <+: bytes) : Wide (some declared) bytes bytes

theorem characters_of_wide {contentType : Option String} {body bytes : List UInt8}
    (h : Wide contentType body bytes) :
    characters (contentType.getD "") body = Utf16.decodeLE bytes := by
  cases h with
  | marked contentType bytes => rfl
  | @declared declared wide bytes bare =>
    unfold characters
    split
    · rename_i rest
      exact absurd ⟨rest, rfl⟩ bare
    · rw [Option.getD_some, (declaresUtf16_iff declared).mpr wide, if_pos rfl]

/-- The text of a body in UTF-16 has a unit for every two bytes and U+FFFD for
a last byte alone. Each unit is the one that the two bytes hold, but for a
surrogate that stands alone, which is U+FFFD; so a text arrives as it is. -/
theorem units_of_wide {contentType : Option String} {body bytes : List UInt8}
    (noForm : ∀ declared ∈ contentType, ¬ TypedForm declared) (wide : Wide contentType body bytes) :
    let units := Utf16.unitsLE bytes
    let read := Utf16.encode (decodeBody contentType body)
    (units.length = bytes.length / 2 ∧ ∀ i, units[i]? = Utf16.unitAt? bytes i) ∧
    read.length = units.length + bytes.length % 2 ∧
    (∀ i < units.length, (Utf16.Lone units i → read[i]? = some 0xFFFD) ∧
      (¬ Utf16.Lone units i → read[i]? = units[i]?)) ∧
    (bytes.length % 2 = 1 → read.getLast? = some 0xFFFD) ∧
    ∀ text, bytes = Utf16.bytesLE (Utf16.encode text) → decodeBody contentType body = text := by
  intro units read
  have decoded : decodeBody contentType body = Utf16.decodeLE bytes := by
    rw [decodeBody_of_no_form (isForm_getD_eq_false noForm), characters_of_wide wide]
  have parts : read = Utf16.encode (Utf16.decode units) ++
      if bytes.length % 2 = 1 then [0xFFFD] else [] := by
    simp only [read, decoded, Utf16.decodeLE, Utf16.encode, List.flatMap_append]
    rw [← Utf16.encode_tail]
    rfl
  have mended := Utf16.mended_decode units
  have length := mended.length_eq
  refine ⟨⟨Utf16.length_unitsLE bytes, Utf16.getElem?_unitsLE bytes⟩, ?_, ?_, ?_, ?_⟩
  · rw [parts, List.length_append, length]
    split <;> simp only [List.length_cons, List.length_nil] <;> omega
  · intro i inside
    have front : read[i]? = (Utf16.encode (Utf16.decode units))[i]? := by
      rw [parts, List.getElem?_append_left (by omega)]
    rw [front]
    exact mended i
  · intro odd
    rw [parts, if_pos odd, List.getLast?_concat]
  · rintro text rfl
    rw [decoded, Utf16.decodeLE_bytesLE]

theorem units_of_wide_around_a_pair :
    let bytes : List UInt8 := [0x3D, 0xD8, 0x3D, 0xD8, 0x00, 0xDE, 0x00, 0xDE, 0x41]
    let read := Utf16.encode (decodeBody none (0xFF :: 0xFE :: bytes))
    read.length = 5 ∧ read[0]? = some 0xFFFD ∧ read[1]? = some 0xD83D ∧ read[2]? = some 0xDE00 ∧
      read[3]? = some 0xFFFD ∧ read.getLast? = some 0xFFFD := by
  intro bytes read
  have units : Utf16.unitsLE bytes = [0xD83D, 0xD83D, 0xDE00, 0xDE00] := by decide
  obtain ⟨-, length, each, last, -⟩ := units_of_wide (by simp) (.marked none bytes)
  rw [units] at length each
  have high : Utf16.isHigh 0xD83D = true ∧ Utf16.isLow 0xD83D = false := by decide
  have low : Utf16.isHigh 0xDE00 = false ∧ Utf16.isLow 0xDE00 = true := by decide
  have inner (j : Nat) : Utf16.PairAt [0xD83D, 0xD83D, 0xDE00, 0xDE00] j ↔ j = 1 := by
    match j with
    | 0 | 1 | 2 | 3 => simp [Utf16.PairAt, high, low]
    | j + 4 => simp [Utf16.PairAt]
  refine ⟨length.trans (by decide), (each 0 (by decide)).1 ?_, (each 1 (by decide)).2 ?_,
    (each 2 (by decide)).2 ?_, (each 3 (by decide)).1 ?_, last (by decide)⟩
  all_goals simp [Utf16.Lone, inner, high, low]

end HopProbe.Service
