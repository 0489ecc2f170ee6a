import HopProbe.Proofs.Text.Utf8

/-!
# Which bytes are a text

The bits of a number can be put into one byte or up to four. Bytes are a text
just if they are cut into such numbers, each in the fewest bytes it fits into,
none a surrogate's and none above U+10FFFF.
-/

set_option autoImplicit false

namespace HopProbe.Text.Utf8

def Tail (b : UInt8) : Prop := 0x80 ≤ b.toNat ∧ b.toNat < 0xC0

/-- Bytes that a number's bits are put into, more of them than it needs or not. -/
inductive Spells : List UInt8 → Nat → Prop
  | one {a : UInt8} (lead : a.toNat < 0x80) : Spells [a] a.toNat
  | two {a b : UInt8} (lead : 0xC0 ≤ a.toNat ∧ a.toNat < 0xE0) (tail : Tail b) :
    Spells [a, b] ((a.toNat - 0xC0) * 64 + (b.toNat - 0x80))
  | three {a b c : UInt8} (lead : 0xE0 ≤ a.toNat ∧ a.toNat < 0xF0) (tail : Tail b) (last : Tail c) :
    Spells [a, b, c] (((a.toNat - 0xE0) * 64 + (b.toNat - 0x80)) * 64 + (c.toNat - 0x80))
  | four {a b c d : UInt8} (lead : 0xF0 ≤ a.toNat ∧ a.toNat < 0xF8) (tail : Tail b) (next : Tail c)
    (last : Tail d) :
    Spells [a, b, c, d] ((((a.toNat - 0xF0) * 64 + (b.toNat - 0x80)) * 64 + (c.toNat - 0x80)) * 64 +
      (d.toNat - 0x80))

def Overlong (bs : List UInt8) (n : Nat) : Prop := ∃ fewer, Spells fewer n ∧ fewer.length < bs.length

/-- Characters one after the other: no overlong forms, no surrogates, nothing above U+10FFFF. -/
inductive Valid : List UInt8 → Prop
  | nil : Valid []
  | cons {piece rest : List UInt8} {n : Nat} (spells : Spells piece n) (short : ¬ Overlong piece n)
    (noSurrogate : ¬ (0xD800 ≤ n ∧ n ≤ 0xDFFF)) (inside : n ≤ 0x10FFFF) (more : Valid rest) :
    Valid (piece ++ rest)

def room (length : Nat) : Nat :=
  if length = 0 then 0
  else if length = 1 then 0x80
  else if length = 2 then 0x800
  else if length = 3 then 0x10000
  else 0x200000

theorem room_mono {m n : Nat} (h : m ≤ n) : room m ≤ room n := by
  unfold room
  split_ifs <;> omega

theorem Spells.lt_room {bs : List UInt8} {n : Nat} (h : Spells bs n) : n < room bs.length := by
  cases h with
  | one lead => exact lead
  | two lead tail =>
    obtain ⟨_, _⟩ := tail
    show _ < 0x800
    omega
  | three lead tail last =>
    obtain ⟨_, _⟩ := tail
    obtain ⟨_, _⟩ := last
    show _ < 0x10000
    omega
  | four lead tail next last =>
    obtain ⟨_, _⟩ := tail
    obtain ⟨_, _⟩ := next
    obtain ⟨_, _⟩ := last
    show _ < 0x200000
    omega

theorem not_overlong {bs : List UInt8} {n : Nat} (h : room (bs.length - 1) ≤ n) :
    ¬ Overlong bs n := by
  rintro ⟨fewer, spells, shorter⟩
  have fits := spells.lt_room
  have small := room_mono (m := fewer.length) (n := bs.length - 1) (by omega)
  omega

theorem spells_encodeChar (c : Char) :
    Spells (encodeChar c) c.toNat ∧ room ((encodeChar c).length - 1) ≤ c.toNat := by
  have range := char_range c
  have byte {n : Nat} (h : n < 256) : (UInt8.ofNat n).toNat = n := toNat_ofNat_of_lt h
  have tail {n : Nat} : Tail (UInt8.ofNat (0x80 + n % 64)) := by
    rw [Tail, byte (by omega)]
    omega
  by_cases one : c.toNat < 0x80
  · have hb := byte (n := c.toNat) (by omega)
    simp only [encodeChar, one, if_true]
    refine ⟨?_, Nat.zero_le _⟩
    have spelled := Spells.one (a := UInt8.ofNat c.toNat) (by omega)
    rwa [hb] at spelled
  by_cases two : c.toNat < 0x800
  · have hb := byte (n := 0xC0 + c.toNat / 64) (by omega)
    have ht := byte (n := 0x80 + c.toNat % 64) (by omega)
    simp only [encodeChar, one, two, if_true, if_false]
    refine ⟨?_, by simpa [room] using one⟩
    have spelled := Spells.two (a := UInt8.ofNat (0xC0 + c.toNat / 64)) (by omega)
      (tail (n := c.toNat))
    rwa [hb, ht, show (0xC0 + c.toNat / 64 - 0xC0) * 64 + (0x80 + c.toNat % 64 - 0x80) = c.toNat by
      omega] at spelled
  by_cases three : c.toNat < 0x10000
  · have hb := byte (n := 0xE0 + c.toNat / 4096) (by omega)
    have hs := byte (n := 0x80 + c.toNat / 64 % 64) (by omega)
    have ht := byte (n := 0x80 + c.toNat % 64) (by omega)
    simp only [encodeChar, one, two, three, if_true, if_false]
    refine ⟨?_, by simpa [room] using two⟩
    have spelled := Spells.three (a := UInt8.ofNat (0xE0 + c.toNat / 4096)) (by omega)
      (tail (n := c.toNat / 64)) (tail (n := c.toNat))
    rwa [hb, hs, ht, show ((0xE0 + c.toNat / 4096 - 0xE0) * 64 + (0x80 + c.toNat / 64 % 64 - 0x80)) * 64 +
      (0x80 + c.toNat % 64 - 0x80) = c.toNat by omega] at spelled
  · have hb := byte (n := 0xF0 + c.toNat / 262144) (by omega)
    have hs := byte (n := 0x80 + c.toNat / 4096 % 64) (by omega)
    have hr := byte (n := 0x80 + c.toNat / 64 % 64) (by omega)
    have ht := byte (n := 0x80 + c.toNat % 64) (by omega)
    simp only [encodeChar, one, two, three, if_false]
    refine ⟨?_, by simpa [room] using three⟩
    have spelled := Spells.four (a := UInt8.ofNat (0xF0 + c.toNat / 262144)) (by omega)
      (tail (n := c.toNat / 4096)) (tail (n := c.toNat / 64)) (tail (n := c.toNat))
    rwa [hb, hs, hr, ht, show (((0xF0 + c.toNat / 262144 - 0xF0) * 64 +
      (0x80 + c.toNat / 4096 % 64 - 0x80)) * 64 + (0x80 + c.toNat / 64 % 64 - 0x80)) * 64 +
      (0x80 + c.toNat % 64 - 0x80) = c.toNat by omega] at spelled

/-- So many bytes spell a number in one way. -/
theorem Spells.unique {bs cs : List UInt8} {n : Nat} (h : Spells bs n) (h' : Spells cs n)
    (same : bs.length = cs.length) : bs = cs := by
  generalize number : n = m at h'
  have byte {a b : UInt8} (equal : a.toNat = b.toNat) : a = b := UInt8.toNat_inj.mp equal
  cases h with
  | one lead =>
    cases h' with
    | one lead' => rw [byte number]
    | _ => simp at same
  | @two a b lead tail =>
    cases h' with
    | @two a' b' lead' tail' =>
      obtain ⟨⟨_, _⟩, ⟨_, _⟩⟩ := And.intro tail tail'
      rw [byte (a := a) (b := a') (by omega), byte (a := b) (b := b') (by omega)]
    | _ => simp at same
  | @three a b c lead tail last =>
    cases h' with
    | @three a' b' c' lead' tail' last' =>
      obtain ⟨⟨_, _⟩, ⟨_, _⟩⟩ := And.intro tail tail'
      obtain ⟨⟨_, _⟩, ⟨_, _⟩⟩ := And.intro last last'
      rw [byte (a := a) (b := a') (by omega), byte (a := b) (b := b') (by omega),
        byte (a := c) (b := c') (by omega)]
    | _ => simp at same
  | @four a b c d lead tail next last =>
    cases h' with
    | @four a' b' c' d' lead' tail' next' last' =>
      obtain ⟨⟨_, _⟩, ⟨_, _⟩⟩ := And.intro tail tail'
      obtain ⟨⟨_, _⟩, ⟨_, _⟩⟩ := And.intro next next'
      obtain ⟨⟨_, _⟩, ⟨_, _⟩⟩ := And.intro last last'
      rw [byte (a := a) (b := a') (by omega), byte (a := b) (b := b') (by omega),
        byte (a := c) (b := c') (by omega), byte (a := d) (b := d') (by omega)]
    | _ => simp at same

theorem eq_encodeChar_iff {bs : List UInt8} {c : Char} :
    Spells bs c.toNat ∧ ¬ Overlong bs c.toNat ↔ bs = encodeChar c := by
  obtain ⟨own, needed⟩ := spells_encodeChar c
  have shortest := not_overlong needed
  constructor
  · rintro ⟨spells, short⟩
    refine spells.unique own (Nat.le_antisymm ?_ ?_)
    · exact Nat.le_of_not_lt fun longer => short ⟨_, own, longer⟩
    · exact Nat.le_of_not_lt fun longer => shortest ⟨_, spells, longer⟩
  · rintro rfl
    exact ⟨own, shortest⟩

theorem valid_iff {bs : List UInt8} : Valid bs ↔ ∃ cs, bs = encode cs := by
  constructor
  · intro h
    induction h with
    | nil => exact ⟨[], rfl⟩
    | @cons piece rest n spells short noSurrogate inside _ ih =>
      obtain ⟨cs, rfl⟩ := ih
      have number := toNat_char (n := n) (by omega)
      have bytes : piece = encodeChar (Char.ofNat n) :=
        eq_encodeChar_iff.mp (number.symm ▸ ⟨spells, short⟩)
      exact ⟨Char.ofNat n :: cs, by rw [bytes]; rfl⟩
  · rintro ⟨cs, rfl⟩
    induction cs with
    | nil => exact .nil
    | cons c cs ih =>
      obtain ⟨spells, short⟩ := eq_encodeChar_iff.mpr (rfl : encodeChar c = encodeChar c)
      have range := char_range c
      exact .cons spells short (by omega) (by omega) ih

/-!
## Text behind damaged text

Whatever bytes stand in front of a text, and however many of a character's
bytes are still owed there, the text is read from its first byte on. The
invariant is that no byte is ever awaited that a character begins with.
-/

def State.AwaitsTail : State → Prop
  | .between => True
  | .within _ low high _ => 0x80 ≤ low ∧ high < 0xC0

theorem begin_awaitsTail (b : UInt8) : (begin b).2.AwaitsTail := by
  unfold begin
  dsimp only
  split_ifs <;> simp [State.AwaitsTail]

theorem step_awaitsTail {s : State} (h : s.AwaitsTail) (b : UInt8) : (step s b).2.AwaitsTail := by
  cases s with
  | between => exact begin_awaitsTail b
  | within more low high bits =>
    rw [step]
    split
    · cases more with
      | zero => trivial
      | succ more => simp [State.AwaitsTail]
    · exact begin_awaitsTail b

theorem scan_cons (s : State) (b : UInt8) (bs : List UInt8) :
    scan s (b :: bs) = (step s b).1 ++ scan (step s b).2 bs := by
  cases s <;> rfl

/-- A byte that is not from within a character ends the one before and is read as a beginning. -/
theorem scan_of_not_tail {more low high bits : Nat} {b : UInt8}
    (h : (State.within more low high bits).AwaitsTail) (first : ¬ Tail b) (rest : List UInt8) :
    scan (.within more low high bits) (b :: rest) = none :: scan .between (b :: rest) := by
  have outside : ¬ (low ≤ b.toNat ∧ b.toNat ≤ high) := by
    obtain ⟨above, below⟩ := h
    rintro ⟨_, _⟩
    exact first ⟨by omega, by omega⟩
  have ended : step (.within more low high bits) b = (none :: (begin b).1, (begin b).2) :=
    if_neg outside
  rw [scan_cons, scan_cons, ended]
  rfl

/-- Bytes in front of a beginning are read as if alone. -/
theorem scan_append {s : State} (h : s.AwaitsTail) (front : List UInt8) {rest : List UInt8}
    (first : ∀ b ∈ rest.head?, ¬ Tail b) :
    scan s (front ++ rest) = scan s front ++ scan .between rest := by
  induction front generalizing s with
  | nil =>
    cases s with
    | between => rfl
    | within more low high bits =>
      cases rest with
      | nil => rfl
      | cons b rest => exact scan_of_not_tail h (first b rfl) rest
  | cons b front ih =>
    rw [List.cons_append, scan_cons, scan_cons, ih (step_awaitsTail h b), List.append_assoc]

theorem not_tail_of_head_encode {cs : List Char} : ∀ b ∈ (encode cs).head?, ¬ Tail b := by
  intro b hb
  cases cs with
  | nil => cases hb
  | cons c cs =>
    obtain ⟨spells, -⟩ := spells_encodeChar c
    rw [encode, List.flatMap_cons] at hb
    generalize c.toNat = n at spells
    generalize encodeChar c = bs at spells hb
    rintro ⟨low, high⟩
    cases spells <;> cases hb <;> omega

theorem decodeLossy_append_encode (front : List UInt8) (cs : List Char) :
    decodeLossy (front ++ encode cs) = decodeLossy front ++ cs := by
  have split : scan .between (front ++ encode cs) = _ :=
    scan_append (s := .between) trivial front not_tail_of_head_encode
  rw [decodeLossy, split, List.map_append]
  exact congrArg (decodeLossy front ++ ·) (decodeLossy_encode cs)

end HopProbe.Text.Utf8
