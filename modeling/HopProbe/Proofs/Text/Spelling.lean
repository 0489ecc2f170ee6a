/-!
# Texts spelled character by character

Where a character can be written in several ways, a text is spelled by a way
for each of its characters, one behind the other.
-/

set_option autoImplicit false

namespace HopProbe.Text

variable {α β : Type}

theorem forall_of_all {P : α → Prop} [DecidablePred P] {text : List α}
    (h : (text.all fun a => decide (P a)) = true) : ∀ a ∈ text, P a := by
  simpa using h

/-- What holds of each ASCII character is found by its number. -/
theorem forall_ascii {P : Char → Prop} (h : ∀ n : Fin 128, P (Char.ofNat n)) {c : Char}
    (ascii : c.toNat < 128) : P c := by
  have found := h ⟨c.toNat, ascii⟩
  rwa [Char.ofNat_toNat] at found

theorem visible_of_isAlpha {c : Char} (h : c.isAlpha = true) : 0x20 ≤ c.toNat ∧ c.toNat < 0x80 := by
  rcases Bool.or_eq_true_iff.mp h with upper | lower
  · have range : 65 ≤ c.toNat ∧ c.toNat ≤ 90 := of_decide_eq_true upper
    omega
  · have ⟨low, high⟩ := Bool.and_eq_true_iff.mp lower
    have low : 97 ≤ c.toNat := of_decide_eq_true low
    have high : c.toNat ≤ 122 := of_decide_eq_true high
    omega

theorem visible_of_isAlphanum {c : Char} (h : c.isAlphanum = true) :
    0x20 ≤ c.toNat ∧ c.toNat < 0x80 := by
  rcases Bool.or_eq_true_iff.mp h with letter | digit
  · exact visible_of_isAlpha letter
  · have ⟨low, high⟩ := Bool.and_eq_true_iff.mp digit
    have low : 48 ≤ c.toNat := of_decide_eq_true low
    have high : c.toNat ≤ 57 := of_decide_eq_true high
    omega

theorem forall_digit {P : Char → Prop} (h : ∀ d : Fin 10, P (Nat.digitChar d)) {c : Char}
    (digit : c.isDigit = true) : P c := by
  have all : ∀ n : Fin 128, (Char.ofNat n).isDigit = true →
      ∃ d : Fin 10, Char.ofNat n = Nat.digitChar d := by decide
  have ascii : c.toNat < 0x80 := (visible_of_isAlphanum (by simp [Char.isAlphanum, digit])).2
  obtain ⟨d, rfl⟩ := forall_ascii (P := fun c => c.isDigit = true → ∃ d : Fin 10, c = Nat.digitChar d)
    all ascii digit
  exact h d

/-- The spellings of a text in front of an ending. -/
inductive Spelled (ways : α → List β → Prop) (ending : List β) : List α → List β → Prop
  | nil : Spelled ways ending [] ending
  | cons {a : α} {text : List α} {way rest : List β} (first : ways a way)
    (more : Spelled ways ending text rest) : Spelled ways ending (a :: text) (way ++ rest)

theorem spelled_flatMap {ways : α → List β → Prop} {write : α → List β}
    (h : ∀ a, ways a (write a)) (text : List α) : Spelled ways [] text (text.flatMap write) := by
  induction text with
  | nil => exact .nil
  | cons a text ih => exact .cons (h a) ih

theorem Spelled.suffix {ways : α → List β → Prop} {ending : List β} {text : List α}
    {spelling : List β} (h : Spelled ways ending text spelling) : ending <:+ spelling := by
  induction h with
  | nil => exact List.suffix_rfl
  | cons first more ih => exact ih.trans (List.suffix_append _ _)

theorem Spelled.forall {ways : α → List β → Prop} {ending : List β} {P : β → Prop}
    (each : ∀ a way, ways a way → ∀ b ∈ way, P b) (last : ∀ b ∈ ending, P b) {text : List α}
    {spelling : List β} (h : Spelled ways ending text spelling) : ∀ b ∈ spelling, P b := by
  induction h with
  | nil => exact last
  | cons first more ih =>
    intro b hb
    rcases List.mem_append.mp hb with hb | hb
    · exact each _ _ first b hb
    · exact ih b hb

end HopProbe.Text
