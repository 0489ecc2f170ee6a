import HopProbe.Toml.Line

/-!
# The space between words of TOML

Each relation goes from a text to what is left behind its first piece. Blanks,
line ends and comments are passed over as they are written.
-/

set_option autoImplicit false

namespace HopProbe.Toml

variable {c : Char} {cs rest : List Char}

inductive Blanks : List Char → List Char → Prop
  | none (rest : List Char) : Blanks rest rest
  | more {c : Char} {cs rest : List Char} (blank : isSpace c = true) (h : Blanks cs rest) :
    Blanks (c :: cs) rest

inductive Break : List Char → List Char → Prop
  | feed (rest : List Char) : Break ('\n' :: rest) rest
  | returned (rest : List Char) : Break ('\r' :: '\n' :: rest) rest

inductive Comment : List Char → List Char → Prop
  | last : Comment [] []
  | ends {cs rest : List Char} (h : Break cs rest) : Comment cs rest
  | more {c : Char} {cs rest : List Char} (printable : isPrintable c = true)
    (h : Comment cs rest) : Comment (c :: cs) rest

inductive LineEnd : List Char → List Char → Prop
  | last {cs : List Char} (b : Blanks cs []) : LineEnd cs []
  | ends {cs mid rest : List Char} (b : Blanks cs mid) (h : Break mid rest) : LineEnd cs rest
  | comment {cs mid rest : List Char} (b : Blanks cs ('#' :: mid)) (h : Comment mid rest) :
    LineEnd cs rest

inductive Gap : List Char → List Char → Prop
  | none (rest : List Char) : Gap rest rest
  | blank {c : Char} {cs rest : List Char} (blank : isSpace c = true) (h : Gap cs rest) :
    Gap (c :: cs) rest
  | ends {cs mid rest : List Char} (b : Break cs mid) (h : Gap mid rest) : Gap cs rest
  | comment {cs mid rest : List Char} (b : Comment cs mid) (h : Gap mid rest) : Gap ('#' :: cs) rest

/-- A character that is no part of any space. -/
def Solid (c : Char) : Prop := c ∉ [' ', '\t', '\n', '\r', '#']

instance (c : Char) : Decidable (Solid c) := inferInstanceAs (Decidable (c ∉ _))

theorem Solid.not_space (h : Solid c) : isSpace c = false := by
  simp only [Solid, List.mem_cons, not_or] at h
  simp [isSpace, h.1, h.2.1]

def Ended (rest : List Char) : Prop :=
  ∀ c ∈ (skipSpaces rest).head?, c ∈ ['#', '\n', '\r', ',', ']', '}']

theorem skipSpaces_solid (h : Solid c) (rest : List Char) : skipSpaces (c :: rest) = c :: rest :=
  List.dropWhile_cons_of_neg (by simp [h.not_space])

theorem Blanks.skip (h : Blanks cs rest) : skipSpaces cs = skipSpaces rest := by
  induction h with
  | none => rfl
  | more blank h ih => rw [← ih, skipSpaces, List.dropWhile_cons_of_pos blank, ← skipSpaces]

theorem Blanks.skip_solid (h : Blanks cs (c :: rest)) (solid : Solid c) :
    skipSpaces cs = c :: rest := by
  rw [h.skip, skipSpaces_solid solid]

theorem Blanks.length_le (h : Blanks cs rest) : rest.length ≤ cs.length := by
  induction h with
  | none => exact Nat.le_refl _
  | more blank h ih => exact Nat.le_succ_of_le ih

theorem Break.length_lt (h : Break cs rest) : rest.length < cs.length := by
  cases h <;> simp only [List.length_cons] <;> omega

theorem Comment.length_le (h : Comment cs rest) : rest.length ≤ cs.length := by
  induction h with
  | last => exact Nat.le_refl _
  | ends h => exact Nat.le_of_lt h.length_lt
  | more printable h ih => exact Nat.le_succ_of_le ih

theorem LineEnd.length_lt (h : LineEnd cs rest) (more : cs ≠ []) : rest.length < cs.length := by
  cases h with
  | last b => exact List.length_pos_iff.mpr more
  | ends b h => exact Nat.lt_of_lt_of_le h.length_lt b.length_le
  | comment b h => exact Nat.lt_of_lt_of_le (Nat.lt_succ_of_le h.length_le) b.length_le

theorem LineEnd.of_nil (h : LineEnd [] rest) : rest = [] := by
  cases h with
  | last b => rfl
  | ends b h =>
    cases b with
    | none => cases h
  | comment b h => cases b

theorem LineEnd.length_le (h : LineEnd cs rest) : rest.length ≤ cs.length := by
  cases cs with
  | nil => exact Nat.le_of_eq (congrArg List.length h.of_nil)
  | cons c cs => exact Nat.le_of_lt (h.length_lt (List.cons_ne_nil c cs))

theorem Gap.length_le (h : Gap cs rest) : rest.length ≤ cs.length := by
  induction h with
  | none => exact Nat.le_refl _
  | blank blank h ih => exact Nat.le_succ_of_le ih
  | ends b h ih => exact Nat.le_trans ih (Nat.le_of_lt b.length_lt)
  | comment b h ih => exact Nat.le_succ_of_le (Nat.le_trans ih b.length_le)

theorem Break.newline? (h : Break cs rest) : newline? cs = some rest := by
  cases h <;> rfl

theorem skipSpaces_of_break (h : Break cs rest) : skipSpaces cs = cs := by
  cases h <;> rfl

theorem commentEnd?_more (printable : isPrintable c = true) (cs : List Char) :
    commentEnd? (c :: cs) = commentEnd? cs := by
  rw [commentEnd?.eq_def]
  split
  · next h => cases h
  · next h =>
    cases h
    exact absurd printable (by decide)
  · next h =>
    cases h
    exact absurd printable (by decide)
  · next h =>
    cases h
    rw [if_pos printable]

theorem Comment.commentEnd? (h : Comment cs rest) : commentEnd? cs = some rest := by
  induction h with
  | last => rfl
  | ends h => cases h <;> rfl
  | more printable h ih => rw [commentEnd?_more printable, ih]

theorem LineEnd.lineEnd? (h : LineEnd cs rest) : lineEnd? cs = some rest := by
  cases h with
  | last b =>
    rw [Toml.lineEnd?, b.skip]
    rfl
  | ends b h =>
    rw [Toml.lineEnd?, b.skip, skipSpaces_of_break h]
    cases h <;> rfl
  | comment b h =>
    rw [Toml.lineEnd?, b.skip]
    exact h.commentEnd?

theorem lineEnd?_solid (b : Blanks cs (c :: rest)) (solid : Solid c) : lineEnd? cs = none := by
  rw [lineEnd?, b.skip_solid solid]
  simp only [Solid, List.mem_cons, not_or] at solid
  split
  · next h => cases h
  · next h =>
    cases h
    exact absurd rfl solid.2.2.2.2.1
  · rw [newline?.eq_def]
    split
    · next h =>
      cases h
      exact absurd rfl solid.2.2.1
    · next h =>
      cases h
      exact absurd rfl solid.2.2.2.1
    · rfl

theorem skipGap_comment (h : Comment cs rest) : skipGap true cs = skipGap false rest := by
  induction h with
  | last => rfl
  | ends h => cases h <;> simp only [skipGap]
  | @more c cs rest printable h ih =>
    rw [← ih, skipGap.eq_def]
    split
    · next h => cases h
    · next h =>
      cases h
      exact absurd printable (by decide)
    · next h =>
      cases h
      exact absurd printable (by decide)
    · next h =>
      cases h
      rw [if_pos rfl, if_pos printable]

theorem skipGap_space (blank : isSpace c = true) (cs : List Char) :
    skipGap false (c :: cs) = skipGap false cs := by
  rw [skipGap.eq_def]
  split
  · next h => cases h
  · next h =>
    cases h
    exact absurd blank (by decide)
  · next h =>
    cases h
    exact absurd blank (by decide)
  · next h =>
    cases h
    rw [if_neg Bool.false_ne_true, if_pos blank]

theorem Gap.skip (h : Gap cs rest) : skipGap false cs = skipGap false rest := by
  induction h with
  | none => rfl
  | blank blank h ih => rw [← ih, skipGap_space blank]
  | ends b h ih =>
    rw [← ih]
    cases b <;> simp only [skipGap]
  | comment b h ih =>
    rw [← ih, ← skipGap_comment b]
    rfl

theorem skipGap_solid (solid : Solid c) (rest : List Char) :
    skipGap false (c :: rest) = some (c :: rest) := by
  have nonspace := solid.not_space
  simp only [Solid, List.mem_cons, not_or] at solid
  rw [skipGap.eq_def]
  split
  · next h => cases h
  · next h =>
    cases h
    exact absurd rfl solid.2.2.1
  · next h =>
    cases h
    exact absurd rfl solid.2.2.2.1
  · next h =>
    cases h
    rw [if_neg Bool.false_ne_true, if_neg (by simp [nonspace]), if_neg solid.2.2.2.2.1]

theorem Gap.skip_solid (h : Gap cs (c :: rest)) (solid : Solid c) :
    skipGap false cs = some (c :: rest) := by
  rw [h.skip, skipGap_solid solid]

/-- A gap is one also behind its first blanks. -/
theorem skipGap_skipSpaces (cs : List Char) : skipGap false (skipSpaces cs) = skipGap false cs := by
  induction cs with
  | nil => rfl
  | cons c cs ih =>
    by_cases blank : isSpace c = true
    · rw [skipGap_space blank, ← ih, skipSpaces, List.dropWhile_cons_of_pos blank, ← skipSpaces]
    · rw [skipSpaces, List.dropWhile_cons_of_neg blank]

theorem Blanks.gap (h : Blanks cs rest) : Gap cs rest := by
  induction h with
  | none rest => exact .none rest
  | more blank h ih => exact .blank blank ih

theorem Gap.head (h : Gap cs (c :: rest)) (solid : Solid c) :
    ∀ d ∈ (skipSpaces cs).head?, d ∈ ['#', '\n', '\r'] ∨ d = c := by
  generalize whole : c :: rest = all at h
  induction h with
  | none =>
    subst whole
    rw [skipSpaces_solid solid]
    exact fun d hd => .inr (Option.some.inj hd).symm
  | blank blank h ih =>
    rw [skipSpaces, List.dropWhile_cons_of_pos blank]
    exact ih whole
  | ends b h ih =>
    rw [skipSpaces_of_break b]
    cases b <;> exact fun d hd => .inl (by cases hd; decide)
  | comment b h ih => exact fun d hd => .inl (by cases hd; decide)

theorem Gap.ended (h : Gap cs (c :: rest)) (closes : c ∈ [',', ']', '}']) : Ended cs := by
  have solid : Solid c := by
    simp only [List.mem_cons, List.not_mem_nil, or_false] at closes
    rcases closes with rfl | rfl | rfl <;> decide
  intro d hd
  rcases h.head solid d hd with space | rfl
  · exact List.mem_append_left [',', ']', '}'] space
  · exact List.mem_append_right ['#', '\n', '\r'] closes

theorem LineEnd.ended (h : LineEnd cs rest) : Ended cs := by
  intro d hd
  cases h with
  | last b =>
    rw [b.skip] at hd
    cases hd
  | ends b h =>
    rw [b.skip, skipSpaces_of_break h] at hd
    cases h <;> cases hd <;> decide
  | comment b h =>
    rw [b.skip] at hd
    cases hd
    decide

theorem head_cases (cs : List Char) : ∀ d ∈ cs.head?, isSpace d = true ∨ d ∈ (skipSpaces cs).head? := by
  cases cs with
  | nil => exact nofun
  | cons c cs =>
    intro d hd
    cases hd
    by_cases blank : isSpace c = true
    · exact .inl blank
    · rw [skipSpaces, List.dropWhile_cons_of_neg blank]
      exact .inr rfl

end HopProbe.Toml
