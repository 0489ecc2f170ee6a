import HopProbe.Proofs.Url.Percent

/-!
# What was written with escapes

Written text is ASCII that needs no further escapes, but for percent signs
where these are escaped too. Only then is every text read back: where percent
signs are left alone, an escape that stood in the text is read with the others.
-/

set_option autoImplicit false

namespace HopProbe.Url.Percent
open HopProbe.Text

variable {escaped : EscapeSet}

def Allowed (escaped : EscapeSet) (c : Char) : Prop := c.toNat < 0x80 ∧ escaped c = false

instance (escaped : EscapeSet) (c : Char) : Decidable (Allowed escaped c) :=
  inferInstanceAs (Decidable (_ ∧ _))

theorem encodeChar_allowed {c : Char} (h : Allowed escaped c) : encodeChar escaped c = [c] :=
  if_pos h

theorem encodeChar_escaped {c : Char} (h : ¬ Allowed escaped c) :
    encodeChar escaped c = (Utf8.encodeChar c).flatMap escape :=
  if_neg h

theorem encode_cons (c : Char) (cs : List Char) :
    encode escaped (c :: cs) = encodeChar escaped c ++ encode escaped cs := rfl

theorem encode_append (cs ds : List Char) :
    encode escaped (cs ++ ds) = encode escaped cs ++ encode escaped ds := List.flatMap_append

theorem encode_eq_self {cs : List Char} (h : ∀ c ∈ cs, Allowed escaped c) :
    encode escaped cs = cs := by
  induction cs with
  | nil => rfl
  | cons c cs ih =>
    rw [encode_cons, encodeChar_allowed (h c (by simp)), ih fun d hd => h d (by simp [hd])]
    rfl

def marks : List Char := "%0123456789ABCDEFabcdef".toList

theorem mem_marks {c : Char} {n : Nat} (h : hexValue? c = some n) : c ∈ marks := by
  have all : ∀ k : Fin 128, (hexValue? (Char.ofNat k)).isSome = true → Char.ofNat k ∈ marks := by
    decide
  exact forall_ascii (P := fun c => (hexValue? c).isSome = true → c ∈ marks) all
    (hexValue_ascii h).1 (by rw [h]; rfl)

theorem mem_escape {b : UInt8} {c : Char} (h : c ∈ escape b) : c ∈ marks := by
  have bound := b.toNat_lt
  simp only [escape, List.mem_cons, List.not_mem_nil, or_false] at h
  rcases h with rfl | rfl | rfl
  · decide
  · exact mem_marks (hexValue_hexDigitUpper (by omega))
  · exact mem_marks (hexValue_hexDigitUpper (by omega))

theorem mem_encode {cs : List Char} {c : Char} (h : c ∈ encode escaped cs) :
    c ∈ cs ∧ Allowed escaped c ∨ c ∈ marks := by
  obtain ⟨d, hd, hc⟩ := List.mem_flatMap.mp h
  by_cases allowed : Allowed escaped d
  · rw [encodeChar_allowed allowed, List.mem_singleton] at hc
    exact Or.inl ⟨hc ▸ hd, hc ▸ allowed⟩
  · rw [encodeChar_escaped allowed] at hc
    obtain ⟨b, -, hb⟩ := List.mem_flatMap.mp hc
    exact Or.inr (mem_escape hb)

theorem encode_eq_nil {cs : List Char} : encode escaped cs = [] ↔ cs = [] := by
  cases cs with
  | nil => simp [encode]
  | cons c cs =>
    refine iff_of_false (fun h => ?_) (by simp)
    rw [encode_cons, List.append_eq_nil_iff] at h
    by_cases allowed : Allowed escaped c
    · simp [encodeChar_allowed allowed] at h
    · rw [encodeChar_escaped allowed] at h
      cases hb : Utf8.encodeChar c with
      | nil => exact absurd hb (Utf8.encodeChar_ne_nil c)
      | cons b bs => simp [hb, escape] at h

theorem not_mem_encode {c : Char} (h : escaped c = true) (other : c ∉ marks) (cs : List Char) :
    c ∉ encode escaped cs := by
  intro hm
  rcases mem_encode hm with ⟨-, allowed⟩ | mark
  · simp [h, Allowed] at allowed
  · exact other mark

/-- Escapes hold no character that is not allowed. -/
def Stable (escaped : EscapeSet) : Prop := ∀ c ∈ marks, escaped c = false

theorem allowed_of_mem_marks (h : Stable escaped) {c : Char} (hc : c ∈ marks) :
    Allowed escaped c := by
  have ascii : ∀ m ∈ marks, m.toNat < 0x80 := forall_of_all (by decide)
  exact ⟨ascii c hc, h c hc⟩

theorem allowed_of_mem_encode (h : Stable escaped) {cs : List Char} {c : Char}
    (hc : c ∈ encode escaped cs) : Allowed escaped c := by
  rcases mem_encode hc with ⟨-, allowed⟩ | mark
  · exact allowed
  · exact allowed_of_mem_marks h mark

theorem encode_encode (h : Stable escaped) (cs : List Char) :
    encode escaped (encode escaped cs) = encode escaped cs :=
  encode_eq_self fun _ hc => allowed_of_mem_encode h hc

theorem decode_cons {c : Char} (h : c ≠ '%') (rest : List Char) :
    decode (c :: rest) = Utf8.encodeChar c ++ decode rest := by
  have noSign : 0x25 ∉ Utf8.encodeChar c := by
    intro hm
    have inside : UInt8.ofNat '%'.toNat ∈ Utf8.encode [c] := by simpa [Utf8.encode] using hm
    have same := Utf8.mem_of_ascii_mem_encode (by decide) inside
    exact h (List.mem_singleton.mp same).symm
  exact decodeBytes_append noSign _

theorem decode_encodeChar_of_escaped {c : Char} (h : ¬ Allowed escaped c) (rest : List Char) :
    decode (encodeChar escaped c ++ rest) = Utf8.encodeChar c ++ decode rest := by
  rw [encodeChar_escaped h, decode, Utf8.encode_append,
    decodeBytes_escapes (spelled_flatMap escapes_escape _)]
  rfl

/-- Where percent signs are escaped, every text is read back. -/
theorem decode_encode (h : escaped '%' = true) (cs : List Char) :
    decode (encode escaped cs) = Utf8.encode cs := by
  induction cs with
  | nil => rfl
  | cons c cs ih =>
    rw [encode_cons]
    by_cases allowed : Allowed escaped c
    · have sign : c ≠ '%' := by
        rintro rfl
        simp [Allowed, h] at allowed
      rw [encodeChar_allowed allowed, List.singleton_append, decode_cons sign, ih]
      rfl
    · rw [decode_encodeChar_of_escaped allowed, ih]
      rfl

theorem encode_injective (h : escaped '%' = true) : Function.Injective (encode escaped) :=
  fun cs ds same => Utf8.encode_injective (by rw [← decode_encode h, same, decode_encode h])

def leads : List Char → Bool
  | a :: b :: _ => (hexValue? a).isSome && (hexValue? b).isSome
  | _ => false

def holdsEscape : List Char → Bool
  | [] => false
  | c :: cs => (c == '%' && leads cs) || holdsEscape cs

theorem leads_iff {cs : List Char} :
    leads cs = true ↔ ∃ a b rest high low, cs = a :: b :: rest ∧ hexValue? a = some high ∧
      hexValue? b = some low := by
  cases cs with
  | nil => simp [leads]
  | cons a cs =>
    cases cs with
    | nil => simp [leads]
    | cons b rest =>
      simp only [leads, Bool.and_eq_true, Option.isSome_iff_exists]
      constructor
      · rintro ⟨⟨high, first⟩, low, second⟩
        exact ⟨a, b, rest, high, low, rfl, first, second⟩
      · rintro ⟨_, _, _, high, low, same, first, second⟩
        cases same
        exact ⟨⟨high, first⟩, low, second⟩

theorem decode_hex {a b : Char} {high low : Nat} (isHigh : hexValue? a = some high)
    (isLow : hexValue? b = some low) (rest : List Char) :
    decode ('%' :: a :: b :: rest) = UInt8.ofNat (high * 16 + low) :: decode rest := by
  have bytes : Utf8.encode ('%' :: a :: b :: rest) =
      0x25 :: UInt8.ofNat a.toNat :: UInt8.ofNat b.toNat :: Utf8.encode rest := by
    simp only [Utf8.encode, List.flatMap_cons, Utf8.encodeChar_ascii (hexValue_ascii isHigh).1,
      Utf8.encodeChar_ascii (hexValue_ascii isLow).1]
    rfl
  rw [decode, bytes, decodeBytes_hex (hexByte_of_digits isHigh isLow)]
  rfl

theorem first_of_digit {cs : List Char} {x : UInt8} {bs : List UInt8} {n : Nat}
    (h : Utf8.encode cs = x :: bs) (digit : hexValue? (Char.ofNat x.toNat) = some n) :
    ∃ c rest, cs = c :: rest ∧ hexValue? c = some n ∧ Utf8.encode rest = bs := by
  cases cs with
  | nil => cases h
  | cons c rest =>
    have small := (hexValue_ascii digit).1
    have bound := x.toNat_lt
    rw [Utf8.toNat_char (by omega)] at small
    by_cases ascii : c.toNat < 0x80
    · simp only [Utf8.encode, List.flatMap_cons, Utf8.encodeChar_ascii ascii, List.cons_append,
        List.nil_append, List.cons.injEq] at h
      have same : Char.ofNat x.toNat = c := by
        rw [← h.1, Utf8.toNat_ofNat_of_lt (by omega), Char.ofNat_toNat]
      exact ⟨c, rest, rfl, same ▸ digit, h.2⟩
    · cases hc : Utf8.encodeChar c with
      | nil => exact absurd hc (Utf8.encodeChar_ne_nil c)
      | cons y ys =>
        have beyond := Utf8.le_of_mem_encodeChar (c := c) (by omega) (b := y) (by simp [hc])
        simp only [Utf8.encode, List.flatMap_cons, hc, List.cons_append, List.cons.injEq] at h
        rw [h.1] at beyond
        omega

theorem decode_sign {rest : List Char} (h : leads rest = false) :
    decode ('%' :: rest) = 0x25 :: decode rest := by
  have alone (bs : List UInt8) (h : ∀ x y more, bs = x :: y :: more → hexByte? x y = none) :
      decodeBytes (0x25 :: bs) = 0x25 :: decodeBytes bs := by
    cases bs with
    | nil => rfl
    | cons x bs =>
      cases bs with
      | nil => rfl
      | cons y more => rw [decodeBytes, h x y more rfl]
  have bytes : Utf8.encode ('%' :: rest) = 0x25 :: Utf8.encode rest := rfl
  rw [decode, bytes, alone]
  · rfl
  · intro x y more front
    cases hex : hexByte? x y with
    | none => rfl
    | some z =>
      simp only [hexByte?, Option.bind_eq_bind, Option.bind_eq_some_iff] at hex
      obtain ⟨high, isHigh, low, isLow, -⟩ := hex
      obtain ⟨a, others, rfl, first, front⟩ := first_of_digit front isHigh
      obtain ⟨b, others, rfl, second, -⟩ := first_of_digit front isLow
      simp [leads, first, second] at h

theorem leads_cons_of_not_digit {c : Char} (h : hexValue? c = none) (rest : List Char) :
    leads (c :: rest) = false := by
  cases rest <;> simp [leads, h]

/-- Escapes begin with a percent sign, so that no digit comes to stand at the front. -/
theorem front_of_not_digit (escaped : EscapeSet) {c : Char} (h : hexValue? c = none) (rest : List Char) :
    ∃ x more, encode escaped (c :: rest) = x :: more ∧ hexValue? x = none := by
  rw [encode_cons]
  by_cases allowed : Allowed escaped c
  · exact ⟨c, encode escaped rest, by rw [encodeChar_allowed allowed]; rfl, h⟩
  · rw [encodeChar_escaped allowed]
    cases bytes : Utf8.encodeChar c with
    | nil => exact absurd bytes (Utf8.encodeChar_ne_nil c)
    | cons b bs => exact ⟨'%', _, rfl, by decide⟩

theorem encode_digit (h : Stable escaped) {c : Char} {n : Nat} (digit : hexValue? c = some n)
    (rest : List Char) : encode escaped (c :: rest) = c :: encode escaped rest := by
  rw [encode_cons, encodeChar_allowed ⟨(hexValue_ascii digit).1, h c (mem_marks digit)⟩]
  rfl

theorem leads_encode (h : Stable escaped) (cs : List Char) :
    leads (encode escaped cs) = leads cs := by
  cases cs with
  | nil => rfl
  | cons a cs =>
    cases first : hexValue? a with
    | none =>
      obtain ⟨x, more, written, other⟩ := front_of_not_digit escaped first cs
      rw [written, leads_cons_of_not_digit other, leads_cons_of_not_digit first]
    | some high =>
      rw [encode_digit h first]
      cases cs with
      | nil => rfl
      | cons b rest =>
        cases second : hexValue? b with
        | none =>
          obtain ⟨x, more, written, other⟩ := front_of_not_digit escaped second rest
          simp [written, leads, other, second]
        | some low => simp [encode_digit h second, leads, second]

/-- Where percent signs are left alone, a text is read as if it had not been written. -/
theorem decode_encode_of_stable (h : Stable escaped) (cs : List Char) :
    decode (encode escaped cs) = decode cs := by
  -- The induction is on the length, for an escape that stands in the text is read at once.
  induction length : cs.length using Nat.strongRecOn generalizing cs with
  | ind n ih =>
    cases cs with
    | nil => rfl
    | cons c rest =>
      have shorter := ih rest.length (by simp [← length]) rest rfl
      by_cases sign : c = '%'
      · subst sign
        have written : encode escaped ('%' :: rest) = '%' :: encode escaped rest := by
          rw [encode_cons, encodeChar_allowed ⟨by decide, h '%' (by decide)⟩]
          rfl
        rw [written]
        cases front : leads rest with
        | false => rw [decode_sign (by rw [leads_encode h, front]), decode_sign front, shorter]
        | true =>
          obtain ⟨a, b, more, high, low, rfl, isHigh, isLow⟩ := leads_iff.mp front
          have shorter := ih more.length (by simp [← length]; omega) more rfl
          rw [encode_digit h isHigh, encode_digit h isLow, decode_hex isHigh isLow,
            decode_hex isHigh isLow, shorter]
      · rw [decode_cons sign, encode_cons]
        by_cases allowed : Allowed escaped c
        · rw [encodeChar_allowed allowed, List.singleton_append, decode_cons sign, shorter]
        · rw [decode_encodeChar_of_escaped allowed, shorter]

theorem length_decodeBytes (bs : List UInt8) : (decodeBytes bs).length ≤ bs.length := by
  fun_induction decodeBytes bs with
  | case1 => exact Nat.le_refl _
  | case2 a b rest x found ih =>
    simp only [List.length_cons]
    omega
  | case3 a b rest none ih => exact Nat.succ_le_succ ih
  | case4 b rest other ih => exact Nat.succ_le_succ ih

theorem decode_eq_iff {cs : List Char} : decode cs = Utf8.encode cs ↔ holdsEscape cs = false := by
  induction cs with
  | nil => exact iff_of_true rfl rfl
  | cons c rest ih =>
    by_cases sign : c = '%'
    · subst sign
      have bytes : Utf8.encode ('%' :: rest) = 0x25 :: Utf8.encode rest := rfl
      cases front : leads rest with
      | false => simp [decode_sign front, bytes, holdsEscape, front, ih]
      | true =>
        refine iff_of_false (fun same => ?_) (by simp [holdsEscape, front])
        obtain ⟨a, b, more, high, low, rfl, isHigh, isLow⟩ := leads_iff.mp front
        have read := length_decodeBytes (Utf8.encode more)
        have length := congrArg List.length same
        rw [decode_hex isHigh isLow, bytes] at length
        simp only [Utf8.encode, List.flatMap_cons, Utf8.encodeChar_ascii (hexValue_ascii isHigh).1,
          Utf8.encodeChar_ascii (hexValue_ascii isLow).1, List.length_cons, List.length_append,
          List.length_nil] at length
        simp only [decode, Utf8.encode] at length read
        omega
    · have bytes : Utf8.encode (c :: rest) = Utf8.encodeChar c ++ Utf8.encode rest := rfl
      simp [decode_cons sign, bytes, holdsEscape, sign, ih]

end HopProbe.Url.Percent
