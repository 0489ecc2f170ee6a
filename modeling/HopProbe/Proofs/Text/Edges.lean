import HopProbe.Proofs.Text.Cut
import Mathlib.Data.List.TakeWhile

/-!
# Texts with something around them

What stands between characters of a kind is found again by taking these away
from both ends, so long as neither end of it is of that kind.
-/

set_option autoImplicit false

namespace HopProbe.Text

variable {α : Type}

def Around (p : α → Bool) (inner text : List α) : Prop :=
  ∃ before after, text = before ++ inner ++ after ∧ (∀ c ∈ before, p c = true) ∧
    ∀ c ∈ after, p c = true

theorem Around.forall {p q : α → Bool} {inner text : List α} (h : Around p inner text)
    (outside : ∀ c, p c = true → q c = false) (inside : ∀ c ∈ inner, q c = false) :
    ∀ c ∈ text, q c = false := by
  obtain ⟨before, after, rfl, front, back⟩ := h
  intro c hc
  rcases List.mem_append.mp hc with hc | hc
  · rcases List.mem_append.mp hc with hc | hc
    · exact outside c (front c hc)
    · exact inside c hc
  · exact outside c (back c hc)

theorem Around.not_mem {p : α → Bool} {inner text : List α} (h : Around p inner text) {c : α}
    (other : p c = false) (outside : c ∉ inner) : c ∉ text := by
  obtain ⟨before, after, rfl, front, back⟩ := h
  intro hm
  rcases List.mem_append.mp hm with hm | hm
  · rcases List.mem_append.mp hm with hm | hm
    · rw [front c hm] at other
      cases other
    · exact outside hm
  · rw [back c hm] at other
    cases other

/-- A text whose two ends are not of a kind. -/
def Edged (p : α → Bool) (cs : List α) : Prop :=
  (∀ c ∈ cs.head?, p c = false) ∧ ∀ c ∈ cs.getLast?, p c = false

theorem edged_of_forall {p : α → Bool} {cs : List α} (h : ∀ c ∈ cs, p c = false) : Edged p cs :=
  ⟨fun c hc => h c (List.mem_of_mem_head? hc), fun c hc => h c (List.mem_of_mem_getLast? hc)⟩

theorem Edged.reverse {p : α → Bool} {cs : List α} (h : Edged p cs) : Edged p cs.reverse := by
  constructor
  · rw [List.head?_reverse]
    exact h.2
  · rw [List.getLast?_reverse]
    exact h.1

theorem Edged.between {p : α → Bool} {front back : List α} (first : Edged p front)
    (last : Edged p back) (begun : front ≠ []) (ended : back ≠ []) (middle : List α) :
    Edged p (front ++ (middle ++ back)) := by
  obtain ⟨b, backs, rfl⟩ := List.exists_cons_of_ne_nil ended
  obtain ⟨f, fronts, rfl⟩ := List.exists_cons_of_ne_nil begun
  constructor
  · exact first.1
  · have same : (f :: fronts ++ (middle ++ b :: backs)).getLast? = (b :: backs).getLast? := by
      simp [← List.append_assoc, List.getLast?_append, List.getLast?_cons]
    rw [same]
    exact last.2

theorem dropWhile_append_edged {p : α → Bool} {before inner : List α}
    (all : ∀ c ∈ before, p c = true) (edged : Edged p inner) (filled : inner ≠ [])
    (after : List α) :
    (before ++ (inner ++ after)).dropWhile p = inner ++ after := by
  rw [List.dropWhile_append_of_pos all]
  cases inner with
  | nil => exact absurd rfl filled
  | cons c inner =>
    have first : p c = false := edged.1 c rfl
    rw [List.cons_append, List.dropWhile_cons_of_neg (by simp [first])]

theorem strip_around {p : α → Bool} {inner text : List α} (h : Around p inner text)
    (edged : Edged p inner) : dropEndWhile p (text.dropWhile p) = inner := by
  obtain ⟨before, after, rfl, front, back⟩ := h
  by_cases filled : inner = []
  · subst filled
    have all : ∀ c ∈ before ++ [] ++ after, p c = true := by
      intro c hc
      rcases List.mem_append.mp hc with hc | hc
      · exact front c (by simpa using hc)
      · exact back c hc
    rw [List.dropWhile_eq_nil_iff.mpr all]
    rfl
  · have backwards : ∀ c ∈ after.reverse, p c = true := fun c hc => back c (List.mem_reverse.mp hc)
    have ended := dropWhile_append_edged backwards edged.reverse (by simpa using filled) []
    rw [List.append_assoc, dropWhile_append_edged front edged filled, dropEndWhile,
      List.reverse_append, ← List.append_nil inner.reverse, ended, List.append_nil,
      List.reverse_reverse]

theorem around_strip (p : α → Bool) (cs : List α) :
    Around p (dropEndWhile p (cs.dropWhile p)) cs := by
  refine ⟨cs.takeWhile p, ((cs.dropWhile p).reverse.takeWhile p).reverse, ?_, ?_, ?_⟩
  · rw [dropEndWhile, List.append_assoc, ← List.reverse_append, List.takeWhile_append_dropWhile,
      List.reverse_reverse, List.takeWhile_append_dropWhile]
  · exact fun c hc => List.mem_takeWhile_imp hc
  · exact fun c hc => List.mem_takeWhile_imp (List.mem_reverse.mp hc)

theorem edged_strip (p : α → Bool) (cs : List α) : Edged p (dropEndWhile p (cs.dropWhile p)) := by
  have ended (ds : List α) : ∀ c ∈ (dropEndWhile p ds).getLast?, p c = false := by
    intro c hc
    rw [dropEndWhile, List.getLast?_reverse] at hc
    simpa [Option.mem_def.mp hc] using List.head?_dropWhile_not p ds.reverse
  refine ⟨fun c hc => ?_, ended _⟩
  cases left : cs.dropWhile p with
  | nil => simp [left, dropEndWhile] at hc
  | cons d ds =>
    have first : p d = false := by simpa [left] using List.head?_dropWhile_not p cs
    rw [left, dropEndWhile_cons first] at hc
    rw [← Option.some.inj hc]
    exact first

theorem Around.trans {p : α → Bool} {inner middle text : List α} (h : Around p inner middle)
    (h' : Around p middle text) : Around p inner text := by
  obtain ⟨before, after, rfl, front, back⟩ := h
  obtain ⟨first, last, rfl, begun, ended⟩ := h'
  refine ⟨first ++ before, after ++ last, by simp, fun c hc => ?_, fun c hc => ?_⟩
  · exact (List.mem_append.mp hc).elim (begun c) (front c)
  · exact (List.mem_append.mp hc).elim (back c) (ended c)

theorem strip_eq_of_around {p : α → Bool} {inner text : List α} (h : Around p inner text) :
    dropEndWhile p (text.dropWhile p) = dropEndWhile p (inner.dropWhile p) :=
  strip_around ((around_strip p inner).trans h) (edged_strip p inner)

theorem strip_edged {p : α → Bool} {cs : List α} (h : Edged p cs) :
    dropEndWhile p (cs.dropWhile p) = cs :=
  strip_around ⟨[], [], by simp, by simp, by simp⟩ h

/-!
## Words and the white space around them

White space ends a word wherever it stands, so that the words of a text are
those before it and those behind it.
-/

/-- Words with white space between each two of them, and any before and behind them. -/
inductive Spaced : List (List Char) → List Char → Prop
  | none {gap : List Char} (blank : ∀ c ∈ gap, isBlank c = true) : Spaced [] gap
  | word {gap word rest : List Char} {more : List (List Char)}
    (blank : ∀ c ∈ gap, isBlank c = true) (filled : word ≠ [])
    (solid : ∀ c ∈ word, isBlank c = false) (apart : ∀ c ∈ rest.head?, isBlank c = true)
    (behind : Spaced more rest) : Spaced (word :: more) (gap ++ (word ++ rest))

theorem words_go_ne_nil (cs : List Char) : words.go cs ≠ [] := by
  cases cs with
  | nil => simp [words.go]
  | cons c cs =>
    rw [words.go]
    split
    · simp
    · split <;> simp

theorem words_go_append {c : Char} (h : isBlank c = true) (front back : List Char) :
    words.go (front ++ c :: back) = words.go front ++ words.go back := by
  induction front with
  | nil => simp [words.go, h]
  | cons d front ih =>
    cases pieces : words.go front with
    | nil => exact absurd pieces (words_go_ne_nil front)
    | cons p ps =>
      rw [pieces] at ih
      simp only [List.cons_append, words.go, ih, pieces]
      split <;> rfl

theorem words_append {c : Char} (h : isBlank c = true) (front back : List Char) :
    words (front ++ c :: back) = words front ++ words back := by
  rw [words, words_go_append h, List.filter_append]
  rfl

theorem words_cons {c : Char} (h : isBlank c = true) (cs : List Char) : words (c :: cs) = words cs :=
  words_append h [] cs

theorem words_gap {gap : List Char} (blank : ∀ c ∈ gap, isBlank c = true) (cs : List Char) :
    words (gap ++ cs) = words cs := by
  induction gap with
  | nil => rfl
  | cons c gap ih =>
    rw [List.cons_append, words_cons (blank c (by simp)), ih fun d hd => blank d (by simp [hd])]

theorem words_go_solid {word : List Char} (solid : ∀ c ∈ word, isBlank c = false) :
    words.go word = [word] := by
  induction word with
  | nil => rfl
  | cons c word ih =>
    simp [words.go, solid c (by simp), ih fun d hd => solid d (by simp [hd])]

theorem words_solid {word : List Char} (filled : word ≠ [])
    (solid : ∀ c ∈ word, isBlank c = false) : words word = [word] := by
  simp [words, words_go_solid solid, filled]

theorem words_of_spaced {ws : List (List Char)} {cs : List Char} (h : Spaced ws cs) :
    words cs = ws := by
  induction h with
  | none blank =>
    have nothing := words_gap blank []
    rwa [List.append_nil] at nothing
  | @word gap word rest more blank filled solid apart behind ih =>
    rw [words_gap blank]
    cases rest with
    | nil =>
      have last : [] = more := ih
      rw [List.append_nil, words_solid filled solid, last]
    | cons c rest =>
      have ends : isBlank c = true := apart c rfl
      rw [words_append ends, words_solid filled solid, ← words_cons ends rest, ih]
      rfl

theorem spaced_words (cs : List Char) : Spaced (words cs) cs := by
  obtain ⟨ws, spaced⟩ : ∃ ws, Spaced ws cs := by
    induction cs with
    | nil => exact ⟨[], .none (by simp)⟩
    | cons c cs ih =>
      obtain ⟨ws, spaced⟩ := ih
      cases kind : isBlank c with
      | true =>
        cases spaced with
        | none blank => exact ⟨[], .none (by simpa [kind] using blank)⟩
        | @word gap _ _ _ blank filled solid apart behind =>
          have wider : ∀ d ∈ c :: gap, isBlank d = true := by simpa [kind] using blank
          exact ⟨_, .word wider filled solid apart behind⟩
      | false =>
        have alone : ∀ d ∈ [c], isBlank d = false := by simpa using kind
        have noGap : ∀ d ∈ ([] : List Char), isBlank d = true := nofun
        cases spaced with
        | none blank =>
          exact ⟨_, .word noGap (by simp) alone (fun d hd => blank d (List.mem_of_mem_head? hd))
            (.none blank)⟩
        | @word gap word rest more blank filled solid apart behind =>
          cases gap with
          | nil =>
            have longer : ∀ d ∈ c :: word, isBlank d = false := by simpa [kind] using solid
            exact ⟨_, .word noGap (by simp) longer apart behind⟩
          | cons d gap =>
            exact ⟨_, .word noGap (by simp) alone (by simpa using blank d (by simp))
              (.word blank filled solid apart behind)⟩
  rw [words_of_spaced spaced]
  exact spaced

end HopProbe.Text
