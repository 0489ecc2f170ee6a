import HopProbe.Text.Natural
import Mathlib.Tactic.SplitIfs

/-!
# Reading numbers that were written

A number is read back from its digits, which are taken from the left: what was
read before the last digit is the number without it.
-/

set_option autoImplicit false

namespace HopProbe.Text

theorem foldlM_toDigits {b : Nat} (base : 1 < b) {value? : Char → Option Nat}
    (each : ∀ d < b, value? (Nat.digitChar d) = some d) (n : Nat) :
    (Nat.toDigits b n).foldlM (fun m c => (value? c).map (m * b + ·)) 0 = some n := by
  induction n using Nat.strongRecOn with
  | ind n ih =>
    by_cases small : n < b
    · simp [Nat.toDigits_of_lt_base small, each n small]
    · have front := ih (n / b) (Nat.div_lt_self (by omega) base)
      have last := each (n % b) (Nat.mod_lt _ (by omega))
      rw [Nat.toDigits_of_base_le base (by omega), List.foldlM_append, front]
      simp [last, Nat.mul_comm (n / b) b, Nat.div_add_mod]

theorem hexValue_range {c : Char} {n : Nat} (h : hexValue? c = some n) :
    (48 ≤ c.toNat ∧ c.toNat ≤ 57 ∨ 65 ≤ c.toNat ∧ c.toNat ≤ 70 ∨ 97 ≤ c.toNat ∧ c.toNat ≤ 102) ∧
      n < 16 := by
  simp only [hexValue?] at h
  split_ifs at h <;> simp only [Option.some.injEq] at h <;> omega

theorem hexValue_digitChar {d : Nat} (h : d < 16) : hexValue? (Nat.digitChar d) = some d := by
  have all : ∀ d : Fin 16, hexValue? (Nat.digitChar d) = some d.val := by decide
  exact all ⟨d, h⟩

theorem digitValue_digitChar {d : Nat} (h : d < 10) : digitValue? (Nat.digitChar d) = some d := by
  have all : ∀ d : Fin 10, digitValue? (Nat.digitChar d) = some d.val := by decide
  exact all ⟨d, h⟩

theorem readDigits_concat (bound : Nat) (excess : NumberFault) (cs : List Char) (c : Char) (n : Nat) :
    readDigits bound excess n (cs ++ [c]) =
      (readDigits bound excess n cs).bind fun m => readDigits bound excess m [c] := by
  induction cs generalizing n with
  | nil => rfl
  | cons d cs ih =>
    rw [List.cons_append, readDigits, readDigits]
    cases digitValue? d with
    | none => rfl
    | some x =>
      dsimp only
      split
      · exact ih _
      · rfl

theorem readDigits_lt {bound : Nat} {excess : NumberFault} {n m : Nat} {cs : List Char}
    (h : readDigits bound excess n cs = .ok m) (below : n < bound) : m < bound := by
  induction cs generalizing n with
  | nil =>
    cases h
    exact below
  | cons c cs ih =>
    rw [readDigits] at h
    split at h
    · cases h
    · split at h
      · next small => exact ih h small
      · cases h

theorem readDigits_toDigits {bound : Nat} (excess : NumberFault) {n : Nat} (h : n < bound) :
    readDigits bound excess 0 (Nat.toDigits 10 n) = .ok n := by
  have single {m d : Nat} (small : d < 10) (below : m * 10 + d < bound) :
      readDigits bound excess m [Nat.digitChar d] = .ok (m * 10 + d) := by
    simp [readDigits, digitValue_digitChar small, below]
  induction n using Nat.strongRecOn with
  | ind n ih =>
    by_cases small : n < 10
    · rw [Nat.toDigits_of_lt_base small, single small (by omega)]
      simp
    · have front := ih (n / 10) (by omega) (by omega)
      rw [Nat.toDigits_of_base_le (by decide) (by omega), readDigits_concat, front]
      simp only [Except.bind]
      rw [single (by omega) (by omega), Nat.mul_comm, Nat.div_add_mod]

theorem isDigit_toDigits (n : Nat) : ∀ c ∈ Nat.toDigits 10 n, c.isDigit = true :=
  fun _ hc => Nat.isDigit_of_mem_toDigits (by decide) (by decide) hc

theorem readInteger_toDigits {bound n : Nat} (h : n < bound) :
    readInteger bound (Nat.toDigits 10 n) = .ok (n : Int) := by
  have digits := isDigit_toDigits n
  have read := readDigits_toDigits .tooLarge h
  unfold readInteger
  split
  · next none => exact absurd none Nat.toDigits_ne_nil
  · next written => exact absurd (digits '+' (by simp [written])) (by decide)
  · next written => exact absurd (digits '-' (by simp [written])) (by decide)
  · next written => exact absurd (digits '-' (by simp [written])) (by decide)
  · next written => exact absurd (digits '+' (by simp [written])) (by decide)
  · rw [read]
    rfl

theorem digit_of_mem_toDigits {b n : Nat} (base : 1 < b) {c : Char} (h : c ∈ Nat.toDigits b n) :
    ∃ d < b, c = Nat.digitChar d := by
  induction n using Nat.strongRecOn with
  | ind n ih =>
    by_cases small : n < b
    · rw [Nat.toDigits_of_lt_base small, List.mem_singleton] at h
      exact ⟨n, small, h⟩
    · rw [Nat.toDigits_of_base_le base (by omega), List.mem_append, List.mem_singleton] at h
      rcases h with front | last
      · exact ih (n / b) (Nat.div_lt_self (by omega) base) front
      · exact ⟨n % b, Nat.mod_lt _ (by omega), last⟩

/-- Decimal digits, with a plus sign in front of them or none, and the number they denote. -/
inductive Numeral : List Char → Nat → Prop
  | plain {digits : List Char} {n : Nat} (filled : digits ≠ []) (value : decimal? digits = some n) :
    Numeral digits n
  | signed {digits : List Char} {n : Nat} (filled : digits ≠ []) (value : decimal? digits = some n) :
    Numeral ('+' :: digits) n

theorem numeral_toDigits (n : Nat) : Numeral (Nat.toDigits 10 n) n :=
  .plain Nat.toDigits_ne_nil
    (foldlM_toDigits (by decide) (fun _ => digitValue_digitChar) n)

theorem le_of_foldlM_digits {cs : List Char} {n m : Nat}
    (h : cs.foldlM (fun n c => (digitValue? c).map (n * 10 + ·)) n = some m) : n ≤ m := by
  induction cs generalizing n with
  | nil =>
    cases h
    exact Nat.le_refl _
  | cons c cs ih =>
    obtain ⟨next, read, rest⟩ := Option.bind_eq_some_iff.mp h
    obtain ⟨d, -, rfl⟩ := Option.map_eq_some_iff.mp read
    have more := ih rest
    omega

theorem readDigits_eq_ok_iff {bound : Nat} {excess : NumberFault} {cs : List Char} {n m : Nat}
    (below : n < bound) :
    readDigits bound excess n cs = .ok m ↔
      cs.foldlM (fun n c => (digitValue? c).map (n * 10 + ·)) n = some m ∧ m < bound := by
  induction cs generalizing n with
  | nil =>
    simp only [readDigits, Except.ok.injEq, List.foldlM_nil, Option.pure_def, Option.some.injEq]
    exact ⟨fun same => ⟨same, same ▸ below⟩, And.left⟩
  | cons c cs ih =>
    rw [readDigits, List.foldlM_cons]
    cases digitValue? c with
    | none => simp
    | some d =>
      simp only [Option.map_some, Option.bind_eq_bind, Option.bind_some]
      split
      · next small => exact ih small
      · next large =>
        refine iff_of_false nofun fun ⟨read, bounded⟩ => large ?_
        exact Nat.lt_of_le_of_lt (le_of_foldlM_digits read) bounded

theorem readNatural_eq_ok_iff {bound : Nat} (filled : 0 < bound) {cs : List Char} {n : Nat} :
    readNatural bound cs = .ok n ↔ Numeral cs n ∧ n < bound := by
  have unsigned {cs : List Char} : decimal? ('+' :: cs) ≠ some n := by
    rw [decimal?, List.foldlM_cons]
    exact nofun
  unfold readNatural
  split
  · refine iff_of_false nofun ?_
    rintro ⟨⟨none, -⟩, -⟩
    exact none rfl
  · refine iff_of_false nofun ?_
    rintro ⟨⟨-, value⟩ | ⟨none, -⟩, -⟩
    · exact unsigned value
    · exact none rfl
  · next cs more =>
    rw [readDigits_eq_ok_iff filled]
    refine and_congr_left fun _ => ⟨.signed more, ?_⟩
    rintro (⟨-, value⟩ | ⟨-, value⟩)
    · exact absurd value unsigned
    · exact value
  · next other _ plain =>
    rw [readDigits_eq_ok_iff filled]
    refine and_congr_left fun _ => ⟨.plain other, ?_⟩
    rintro (⟨-, value⟩ | ⟨-, value⟩)
    · exact value
    · exact absurd rfl (plain _)

end HopProbe.Text
