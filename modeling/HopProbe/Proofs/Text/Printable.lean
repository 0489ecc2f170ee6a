import HopProbe.Proofs.Text.Cut
import HopProbe.Proofs.Text.Natural
import HopProbe.Text.Base64
import HopProbe.Text.Quoted
import HopProbe.Text.Real

/-!
# Text without controls

Numbers in every form, quoted text, and bytes in base 64 are written without
any of the characters below the space, line breaks among them.
-/

set_option autoImplicit false

namespace HopProbe.Text

def Printable (cs : List Char) : Prop := ∀ c ∈ cs, 0x20 ≤ c.toNat

instance (cs : List Char) : Decidable (Printable cs) := List.decidableBAll _ cs

theorem Printable.not_mem {cs : List Char} (h : Printable cs) {c : Char} (low : c.toNat < 0x20) :
    c ∉ cs :=
  fun hc => absurd (h c hc) (by omega)

def OneLine (s : String) : Prop := '\n' ∉ s.toList

instance (s : String) : Decidable (OneLine s) := inferInstanceAs (Decidable (_ ∉ _))

theorem Printable.oneLine {s : String} (h : Printable s.toList) : OneLine s := h.not_mem (by decide)

@[simp] theorem oneLine_append {s t : String} : OneLine (s ++ t) ↔ OneLine s ∧ OneLine t := by
  simp [OneLine]

theorem oneLine_front {front : String} (h : OneLine front) (s : String) :
    OneLine (front ++ s) ↔ OneLine s := by
  rw [oneLine_append, and_iff_right h]

/-- Characters are checked faster than the bytes of the text that they make. -/
theorem oneLine_ofList {cs : List Char} (h : '\n' ∉ cs) : OneLine (String.ofList cs) := by
  rwa [OneLine, String.toList_ofList]

@[simp] theorem printable_nil : Printable [] := by simp [Printable]

@[simp] theorem printable_append {cs ds : List Char} :
    Printable (cs ++ ds) ↔ Printable cs ∧ Printable ds :=
  List.forall_mem_append

@[simp] theorem printable_cons {c : Char} {cs : List Char} :
    Printable (c :: cs) ↔ 0x20 ≤ c.toNat ∧ Printable cs :=
  List.forall_mem_cons

theorem Printable.sublist {cs ds : List Char} (h : Printable ds) (part : cs.Sublist ds) :
    Printable cs :=
  fun c hc => h c (part.mem hc)

theorem printable_flatMap {α : Type} {as : List α} {write : α → List Char}
    (h : ∀ a ∈ as, Printable (write a)) : Printable (as.flatMap write) := by
  intro c hc
  obtain ⟨a, ha, hc⟩ := List.mem_flatMap.mp hc
  exact h a ha c hc

theorem printable_joined {sep : List Char} (between : Printable sep) {parts : List (List Char)}
    (h : ∀ part ∈ parts, Printable part) : Printable (joined sep parts) := by
  intro c hc
  rcases mem_joined hc with hc | ⟨part, inside, hc⟩
  · exact between c hc
  · exact h part inside c hc

theorem printable_replicate {c : Char} (h : 0x20 ≤ c.toNat) (n : Nat) :
    Printable (List.replicate n c) := by
  intro d hd
  rw [List.eq_of_mem_replicate hd]
  exact h

theorem printable_digitChar {d : Nat} (h : d < 16) : 0x20 ≤ (Nat.digitChar d).toNat := by
  have all : ∀ d : Fin 16, 0x20 ≤ (Nat.digitChar d).toNat := by decide
  exact all ⟨d, h⟩

theorem printable_toDigits {b : Nat} (base : 1 < b) (small : b ≤ 16) (n : Nat) :
    Printable (Nat.toDigits b n) := by
  intro c hc
  obtain ⟨d, below, rfl⟩ := digit_of_mem_toDigits base hc
  exact printable_digitChar (by omega)

@[simp] theorem printable_decimal (n : Nat) : Printable (Nat.toDigits 10 n) :=
  printable_toDigits (by decide) (by decide) n

@[simp] theorem printable_nat (n : Nat) : Printable (toString n).toList := by
  show Printable (String.ofList (Nat.toDigits 10 n)).toList
  simp

@[simp] theorem printable_int (n : Int) : Printable (toString n).toList := by
  cases n with
  | ofNat n => exact printable_nat n
  | negSucc n =>
    show Printable ("-" ++ toString (n + 1)).toList
    rw [String.toList_append, printable_append]
    exact ⟨by decide, printable_nat (n + 1)⟩

theorem printable_quotedChar (c : Char) : Printable (quotedChar c) := by
  unfold quotedChar
  repeat' split
  all_goals try decide
  · exact printable_append.mpr ⟨printable_append.mpr ⟨by decide,
      printable_toDigits (by decide) (by decide) _⟩, by decide⟩
  · next visible =>
    simp only [not_or] at visible
    simp [Nat.le_of_not_lt visible.1]

theorem printable_quote (s : String) : Printable (quote s).toList := by
  rw [quote, String.toList_ofList]
  have inner : Printable (s.toList.flatMap quotedChar) :=
    printable_flatMap fun c _ => printable_quotedChar c
  exact printable_append.mpr ⟨printable_cons.mpr ⟨by decide, inner⟩, by decide⟩

namespace Base64

theorem printable_digit (n : Nat) : 0x20 ≤ (digit n).toNat := by
  have low : ∀ n : Fin 63, 0x20 ≤ (digit n).toNat := by decide
  by_cases h : n < 63
  · exact low ⟨n, h⟩
  · have last : digit n = '/' := by
      unfold digit
      rw [if_neg (by omega), if_neg (by omega), if_neg (by omega), if_neg (by omega)]
    rw [last]
    decide

theorem printable_text (bs : List UInt8) : Printable (text bs).toList := by
  rw [text, String.toList_ofList]
  fun_induction encode bs with
  | case1 => simp
  | case2 a n => simp [printable_digit]
  | case3 a b n => simp [printable_digit]
  | case4 a b c rest n ih => simp [printable_digit, ih]

end Base64

namespace Real

theorem printable_plain (d : Nat) (p : Int) : Printable (plain d p) := by
  have digits := printable_decimal d
  have zeros (n : Nat) : Printable (List.replicate n '0') := printable_replicate (by decide) n
  unfold plain
  cases p with
  | ofNat k =>
    dsimp only
    split
    · exact digits
    · exact printable_append.mpr ⟨digits, zeros k⟩
  | negSucc k =>
    dsimp only
    split
    · have front : Printable ['0', '.'] := by decide
      exact printable_append.mpr ⟨printable_append.mpr ⟨front, zeros _⟩, digits⟩
    · refine printable_append.mpr ⟨digits.sublist (List.take_sublist _ _), ?_⟩
      exact printable_cons.mpr ⟨by decide, digits.sublist (List.drop_sublist _ _)⟩

theorem printable_text (bits : UInt64) : Printable (text bits).toList := by
  unfold text
  cases parts bits with
  | notANumber => decide
  | infinite negative => cases negative <;> decide
  | finite negative v =>
    dsimp only
    rw [String.toList_ofList, printable_append]
    refine ⟨?_, printable_plain _ _⟩
    cases negative <;> decide

end Real

end HopProbe.Text
