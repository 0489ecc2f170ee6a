import HopProbe.Proofs.Text.Cut
import HopProbe.Proofs.Text.Natural
import HopProbe.Toml.Scalar
import Mathlib.Data.List.TakeWhile

/-!
# Integers as they are written

In any base, with underscores between the digits. An integer that does not fit
is nothing else either.
-/

set_option autoImplicit false

namespace HopProbe.Toml
open HopProbe.Text

variable {cs ds rest : List Char} {isDigit : Char → Bool}

/-- Digits with single underscores between them, and the digits alone. -/
inductive Digits (isDigit : Char → Bool) : List Char → List Char → Prop
  | last {c : Char} (h : isDigit c = true) : Digits isDigit [c] [c]
  | cons {c : Char} {cs ds : List Char} (h : isDigit c = true) (more : Digits isDigit cs ds) :
    Digits isDigit (c :: cs) (c :: ds)
  | apart {c : Char} {cs ds : List Char} (h : isDigit c = true) (more : Digits isDigit cs ds) :
    Digits isDigit (c :: '_' :: cs) (c :: ds)

structure Whole (cs ds : List Char) : Prop where
  digits : Digits Char.isDigit cs ds
  bare : ∀ more, ds = '0' :: more → more = []

inductive Number : List Char → Int → Prop
  | plain {cs ds : List Char} (h : Whole cs ds) : Number cs (numberOf 10 ds)
  | plus {cs ds : List Char} (h : Whole cs ds) : Number ('+' :: cs) (numberOf 10 ds)
  | minus {cs ds : List Char} (h : Whole cs ds) : Number ('-' :: cs) (-(numberOf 10 ds : Int))
  | hex {cs ds : List Char} (h : Digits isHexDigit cs ds) : Number ('0' :: 'x' :: cs) (numberOf 16 ds)
  | octal {cs ds : List Char} (h : Digits isOctalDigit cs ds) :
    Number ('0' :: 'o' :: cs) (numberOf 8 ds)
  | binary {cs ds : List Char} (h : Digits isBinaryDigit cs ds) :
    Number ('0' :: 'b' :: cs) (numberOf 2 ds)

/-- The value of an integer, unless it is too far below zero. -/
def readable (n : Int) : Option Value :=
  if -(twoTo 127 : Int) ≤ n then some (.integer n) else none

theorem Digits.head (h : Digits isDigit cs ds) : ∃ c more, cs = c :: more ∧ isDigit c = true := by
  cases h with
  | last h | cons h | apart h => exact ⟨_, _, rfl, h⟩

theorem Digits.mem (h : Digits isDigit cs ds) : ∀ c ∈ cs, isDigit c = true ∨ c = '_' := by
  induction h with
  | last h =>
    intro d hd
    rw [List.mem_singleton] at hd
    exact .inl (hd ▸ h)
  | cons h more ih => exact List.forall_mem_cons.mpr ⟨.inl h, ih⟩
  | apart h more ih => exact List.forall_mem_cons.mpr ⟨.inl h, List.forall_mem_cons.mpr ⟨.inr rfl, ih⟩⟩

theorem Digits.read (h : Digits isDigit cs ds) (apart : isDigit '_' = false) :
    digits? isDigit cs = some ds := by
  have groups : ∃ p ps, pieces '_' cs = p :: ps ∧
      ((p :: ps).all fun g => !g.isEmpty && g.all isDigit) = true ∧ (p :: ps).flatten = ds := by
    induction h with
    | @last c h =>
      have plain : c ≠ '_' := by
        rintro rfl
        rw [apart] at h
        cases h
      exact ⟨[c], [], by simp [pieces, plain], by simp [h], rfl⟩
    | @cons c cs ds h more ih =>
      have plain : c ≠ '_' := by
        rintro rfl
        rw [apart] at h
        cases h
      obtain ⟨p, ps, cut, good, rfl⟩ := ih
      simp only [List.all_cons, Bool.and_eq_true] at good
      exact ⟨c :: p, ps, by rw [pieces, if_neg plain, cut], by simp [h, good.1.2, good.2], rfl⟩
    | @apart c cs ds h more ih =>
      have plain : c ≠ '_' := by
        rintro rfl
        rw [apart] at h
        cases h
      obtain ⟨p, ps, cut, good, rfl⟩ := ih
      refine ⟨[c], p :: ps, ?_, ?_, rfl⟩
      · rw [pieces, if_neg plain, pieces, if_pos rfl, cut]
      · rw [List.all_cons, good]
        simp [h]
  obtain ⟨p, ps, cut, good, rfl⟩ := groups
  rw [digits?, cut, if_pos good]

theorem Whole.digit {c : Char} (h : c.isDigit = true) : Whole [c] [c] :=
  ⟨.last h, fun _ same => (List.cons.inj same).2.symm⟩

theorem Whole.read (h : Whole cs ds) : decimal? cs = some (numberOf 10 ds) := by
  rw [decimal?, wholeDigits?, h.digits.read (by decide)]
  split
  · next more same =>
    cases same
    exact absurd (h.bare _ rfl) (List.cons_ne_nil _ _)
  · rfl

theorem Whole.mem (h : Whole cs ds) {c : Char} (hc : c ∈ cs) : c.isDigit = true ∨ c = '_' :=
  h.digits.mem c hc

theorem Whole.head_ne (h : Whole cs ds) {c : Char} (other : c.isDigit = false) :
    cs.head? ≠ some c := by
  obtain ⟨d, more, rfl, digit⟩ := h.digits.head
  intro same
  cases same
  rw [digit] at other
  cases other

theorem Number.read {n : Int} (h : Number cs n) : unbounded? cs = some n := by
  cases h with
  | plain h =>
    have second {c d : Char} {more : List Char} (same : cs = c :: d :: more)
        (other : d.isDigit = false ∧ d ≠ '_') : False := by
      rcases h.mem (c := d) (by simp [same]) with digit | low
      · rw [digit] at other
        cases other.1
      · exact other.2 low
    rw [unbounded?.eq_def]
    split
    · exact (second rfl (by decide)).elim
    · exact (second rfl (by decide)).elim
    · exact (second rfl (by decide)).elim
    · exact absurd rfl (h.head_ne (c := '+') (by decide))
    · exact absurd rfl (h.head_ne (c := '-') (by decide))
    · rw [h.read]
      rfl
  | plus h =>
    rw [unbounded?, h.read]
    rfl
  | minus h =>
    rw [unbounded?, h.read]
    rfl
  | hex h =>
    rw [unbounded?, inBase?, h.read (by decide)]
    rfl
  | octal h =>
    rw [unbounded?, inBase?, h.read (by decide)]
    rfl
  | binary h =>
    rw [unbounded?, inBase?, h.read (by decide)]
    rfl

theorem Whole.not_real (h : Whole cs ds) : isDecimalReal cs = false := by
  have absent {c : Char} (other : c.isDigit = false ∧ c ≠ '_') : c ∉ cs := fun hc =>
    (h.mem hc).elim (fun digit => by rw [digit] at other; cases other.1) other.2
  have plain : ∀ c ∈ cs, (! isExponentMark c) = true := by
    intro c hc
    simp only [isExponentMark, Bool.not_eq_true', Bool.or_eq_false_iff, beq_eq_false_iff_ne]
    constructor <;> rintro rfl
    · exact absent (by decide) hc
    · exact absent (by decide) hc
  have point : '.' ∉ cs := absent (by decide)
  rw [isDecimalReal, List.takeWhile_eq_self_iff.mpr plain, List.dropWhile_eq_nil_iff.mpr plain,
    cutFirst_of_not_mem point]
  simp [point]

theorem Whole.not_moment (h : Whole cs ds) : Moment.isMoment ('-' :: cs) = false := by
  have date : Moment.afterDate? ('-' :: cs) = none := by
    rw [Moment.afterDate?.eq_def]
    split
    · next same =>
      cases same
      rfl
    · rfl
  have time : Moment.afterPair? 23 ('-' :: cs) = none := by
    cases cs <;> rfl
  simp [Moment.isMoment, date, Moment.isTime, Moment.afterTime?, Moment.afterMinutes?, time]

theorem Number.value {n : Int} (h : Number cs n) (small : n < twoTo 128) :
    Value.ofToken? cs = readable n := by
  have start : ∀ c ∈ cs.head?, c ≠ 't' ∧ c ≠ 'f' := by
    cases h with
    | plain h =>
      exact fun c hc => ⟨fun same => h.head_ne (c := 't') (by decide) (same ▸ hc),
        fun same => h.head_ne (c := 'f') (by decide) (same ▸ hc)⟩
    | plus | minus | hex | octal | binary =>
      exact fun c hc => by cases hc; decide
  have word : cs ≠ ['t', 'r', 'u', 'e'] ∧ cs ≠ ['f', 'a', 'l', 's', 'e'] := by
    constructor <;> rintro rfl
    · exact (start 't' rfl).1 rfl
    · exact (start 'f' rfl).2 rfl
  rw [Value.ofToken?, if_neg word.1, if_neg word.2, integer?, h.read, readable]
  by_cases fits : -(twoTo 127 : Int) ≤ n
  · rw [if_pos fits, Option.bind_some, if_pos ⟨fits, small⟩]
  · rw [if_neg fits, Option.bind_some, if_neg fun both => fits both.1]
    -- Only a number with a minus sign is so small.
    cases h with
    | @minus cs ds h =>
      have real : isReal ('-' :: cs) = false := by
        have letters : cs ≠ ['i', 'n', 'f'] ∧ cs ≠ ['n', 'a', 'n'] := by
          constructor <;> rintro rfl
          · exact h.head_ne (c := 'i') (by decide) rfl
          · exact h.head_ne (c := 'n') (by decide) rfl
        simp [isReal, withoutSign, letters, h.not_real]
      simp [real, h.not_moment]
    | _ => exact absurd (by omega) fits

theorem isScalarChar_of_alphanum {c : Char} (h : c.isAlphanum = true) : isScalarChar c = true := by
  rw [isScalarChar, h, Bool.true_or]

theorem isAlphanum_of_isHexDigit {c : Char} (h : isHexDigit c = true) : c.isAlphanum = true := by
  obtain ⟨n, value⟩ := Option.isSome_iff_exists.mp h
  have range := (hexValue_range value).1
  have all : ∀ n : Fin 128, isHexDigit (Char.ofNat n) = true → (Char.ofNat n).isAlphanum = true := by
    decide
  have found := all ⟨c.toNat, by omega⟩
  rw [Char.ofNat_toNat] at found
  exact found h

theorem isAlphanum_of_isOctalDigit {c : Char} (h : isOctalDigit c = true) : c.isAlphanum = true := by
  simp only [isOctalDigit, Bool.and_eq_true, decide_eq_true_eq] at h
  have digit : c.isDigit = true := by
    simp only [Char.isDigit, ge_iff_le, Bool.and_eq_true, decide_eq_true_eq]
    exact ⟨h.1, UInt32.le_trans h.2 (by decide)⟩
  rw [Char.isAlphanum, digit, Bool.or_true]

theorem isAlphanum_of_isBinaryDigit {c : Char} (h : isBinaryDigit c = true) :
    c.isAlphanum = true := by
  simp only [isBinaryDigit, Bool.or_eq_true, beq_iff_eq] at h
  rcases h with rfl | rfl <;> decide

theorem Digits.scalar (h : Digits isDigit cs ds)
    (alphanum : ∀ {c : Char}, isDigit c = true → c.isAlphanum = true) :
    ∀ c ∈ cs, isScalarChar c = true := by
  intro c hc
  rcases h.mem c hc with digit | rfl
  · exact isScalarChar_of_alphanum (alphanum digit)
  · decide

theorem Whole.scalar (h : Whole cs ds) : ∀ c ∈ cs, isScalarChar c = true :=
  h.digits.scalar fun digit => by rw [Char.isAlphanum, digit, Bool.or_true]

theorem Number.scalar {n : Int} (h : Number cs n) : ∀ c ∈ cs, isScalarChar c = true := by
  cases h with
  | plain h => exact h.scalar
  | plus h => exact List.forall_mem_cons.mpr ⟨by decide, h.scalar⟩
  | minus h => exact List.forall_mem_cons.mpr ⟨by decide, h.scalar⟩
  | hex h =>
    exact List.forall_mem_cons.mpr ⟨by decide, List.forall_mem_cons.mpr
      ⟨by decide, h.scalar isAlphanum_of_isHexDigit⟩⟩
  | octal h =>
    exact List.forall_mem_cons.mpr ⟨by decide, List.forall_mem_cons.mpr
      ⟨by decide, h.scalar isAlphanum_of_isOctalDigit⟩⟩
  | binary h =>
    exact List.forall_mem_cons.mpr ⟨by decide, List.forall_mem_cons.mpr
      ⟨by decide, h.scalar isAlphanum_of_isBinaryDigit⟩⟩

theorem Number.starts {n : Int} (h : Number cs n) :
    ∃ c more, cs = c :: more ∧ isScalarChar c = true := by
  have scalar := h.scalar
  cases cs with
  | nil =>
    cases h with
    | plain h =>
      obtain ⟨c, more, same, -⟩ := h.digits.head
      cases same
  | cons c more => exact ⟨c, more, rfl, scalar c List.mem_cons_self⟩

theorem digits_of_all (filled : cs ≠ []) (all : ∀ c ∈ cs, isDigit c = true) :
    Digits isDigit cs cs := by
  induction cs with
  | nil => exact absurd rfl filled
  | cons c cs ih =>
    have first := all c List.mem_cons_self
    cases cs with
    | nil => exact .last first
    | cons d cs =>
      exact .cons first (ih (List.cons_ne_nil d cs) fun c hc => all c (List.mem_cons_of_mem _ hc))

theorem head_toDigits_ne {n : Nat} (above : 0 < n) : (Nat.toDigits 10 n).head? ≠ some '0' := by
  induction n using Nat.strongRecOn with
  | ind n ih =>
    by_cases small : n < 10
    · rw [Nat.toDigits_of_lt_base small]
      have all : ∀ d : Fin 10, 0 < d.val → Nat.digitChar d ≠ '0' := by decide
      exact fun same => all ⟨n, small⟩ above (Option.some.inj same)
    · have front := ih (n / 10) (by omega) (by omega)
      rw [Nat.toDigits_of_base_le (by decide) (by omega)]
      cases digits : Nat.toDigits 10 (n / 10) with
      | nil => exact absurd digits Nat.toDigits_ne_nil
      | cons c cs =>
        rw [digits] at front
        exact front

theorem numberOf_of_foldlM {b : Nat} {cs : List Char} {n m : Nat}
    (h : cs.foldlM (fun n c => (hexValue? c).map (n * b + ·)) n = some m) :
    cs.foldl (fun n c => n * b + (hexValue? c).getD 0) n = m := by
  induction cs generalizing n with
  | nil => exact Option.some.inj h
  | cons c cs ih =>
    rw [List.foldlM_cons] at h
    cases value : hexValue? c with
    | none =>
      rw [value] at h
      cases h
    | some d =>
      rw [value] at h
      rw [List.foldl_cons, value]
      exact ih h

theorem numberOf_toDigits (n : Nat) : numberOf 10 (Nat.toDigits 10 n) = n :=
  numberOf_of_foldlM (foldlM_toDigits (by decide)
    (fun _ small => hexValue_digitChar (Nat.lt_trans small (by decide))) n)

theorem whole_toDigits (n : Nat) : Whole (Nat.toDigits 10 n) (Nat.toDigits 10 n) where
  digits := digits_of_all Nat.toDigits_ne_nil (isDigit_toDigits n)
  bare := by
    intro more same
    cases n with
    | zero => exact (List.cons.inj same).2.symm
    | succ n => exact absurd (congrArg List.head? same) (head_toDigits_ne n.succ_pos)

theorem exists_number (n : Int) : ∃ cs, Number cs n := by
  cases n with
  | ofNat n =>
    have written := Number.plain (whole_toDigits n)
    rw [numberOf_toDigits] at written
    exact ⟨_, written⟩
  | negSucc n =>
    have written := Number.minus (whole_toDigits (n + 1))
    rw [numberOf_toDigits] at written
    exact ⟨_, written⟩

end HopProbe.Toml
