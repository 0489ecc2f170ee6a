import HopProbe.Proofs.Text.Cut
import HopProbe.Proofs.Text.Natural
import HopProbe.Run.Transcript
import HopProbe.Script.Lines
import Mathlib.Tactic.SplitIfs

/-!
# Lines and the text they came from

Lines of a script are not empty and hold no line break, so that joining and
splitting gives them back, unless the joined text reads as a literal of JSON.
Then it is taken for the text it denotes, which is shorter.
-/

set_option autoImplicit false

namespace HopProbe.Script
open HopProbe.Text

/-- What a line of a script can be. -/
def IsLine (line : List Char) : Prop := line ≠ [] ∧ ∀ c ∈ line, isLineBreak c = false

theorem newline_not_mem {line : List Char} (h : IsLine line) : '\n' ∉ line := by
  intro hm
  have := h.2 '\n' hm
  contradiction

theorem flatten_nonEmptyLines (text : List Char) :
    (nonEmptyLines text).flatten = text.filter (! isLineBreak ·) := by
  have keep (ps : List (List Char)) : (ps.filter (! ·.isEmpty)).flatten = ps.flatten := by
    induction ps with
    | nil => rfl
    | cons p ps ih => cases p <;> simp [ih]
  rw [nonEmptyLines, keep, flatten_pieces, List.filter_filter]
  apply List.filter_congr
  intro c _
  by_cases hr : c = '\r' <;> by_cases hn : c = '\n' <;> simp [isLineBreak, hr, hn]

theorem isLine_of_mem {text line : List Char} (h : line ∈ nonEmptyLines text) : IsLine line := by
  obtain ⟨hp, hne⟩ := List.mem_filter.mp h
  refine ⟨by simpa using hne, fun c hc => ?_⟩
  have kept : c ∈ (nonEmptyLines text).flatten := List.mem_flatten.mpr ⟨line, h, hc⟩
  rw [flatten_nonEmptyLines] at kept
  simpa using (List.mem_filter.mp kept).2

theorem isLine_of_mem_lines {body line : String} (h : line ∈ lines body) : IsLine line.toList := by
  obtain ⟨cs, hc, rfl⟩ := List.mem_map.mp h
  rw [String.toList_ofList]
  exact isLine_of_mem hc

theorem nonEmptyLines_joined {ls : List (List Char)} (h : ∀ line ∈ ls, IsLine line) :
    nonEmptyLines (joined ['\n'] ls) = ls := by
  cases ls with
  | nil => rfl
  | cons line rest =>
    have noReturn : (joined ['\n'] (line :: rest)).filter (· ≠ '\r') =
        joined ['\n'] (line :: rest) := by
      apply List.filter_eq_self.mpr
      intro c hc
      rcases mem_joined hc with hc | ⟨p, hp, hc⟩
      · simp_all
      · have visible := (h p hp).2 c hc
        simp_all [isLineBreak]
    rw [nonEmptyLines, noReturn, pieces_joined (by simp) fun p hp => newline_not_mem (h p hp)]
    apply List.filter_eq_self.mpr
    intro p hp
    simpa using (h p hp).1

theorem hexValue_visible {c : Char} {n : Nat} (h : hexValue? c = some n) : 0x20 ≤ c.toNat := by
  have range := (hexValue_range h).1
  omega

theorem unit_visible {a b c d : Char} {u : UInt16} (h : JsonString.unit? a b c d = some u) :
    0x20 ≤ a.toNat ∧ 0x20 ≤ b.toNat ∧ 0x20 ≤ c.toNat ∧ 0x20 ≤ d.toNat := by
  simp only [JsonString.unit?, Option.bind_eq_bind, Option.bind_eq_some_iff] at h
  obtain ⟨x, hx, y, hy, z, hz, w, hw, -⟩ := h
  exact ⟨hexValue_visible hx, hexValue_visible hy, hexValue_visible hz, hexValue_visible hw⟩

theorem short_visible {c x : Char} (h : JsonString.short? c = some x) : 0x20 ≤ c.toNat := by
  simp only [JsonString.short?] at h
  split_ifs at h <;> subst_vars <;> decide

def Spans (cs text : List Char) : Prop := text.length + 1 ≤ cs.length ∧ ∀ c ∈ cs, 0x20 ≤ c.toNat

theorem spans_append (front : List Char) {cs text : List Char} (hne : front ≠ [])
    (hf : ∀ c ∈ front, 0x20 ≤ c.toNat) (h : Spans cs text) (x : Char) :
    Spans (front ++ cs) (x :: text) := by
  have longer := List.length_pos_iff.mpr hne
  constructor
  · have := h.1
    simp only [List.length_append, List.length_cons]
    omega
  · intro c hc
    rcases List.mem_append.mp hc with hc | hc
    · exact hf c hc
    · exact h.2 c hc

theorem body_spans {cs text : List Char} (h : JsonString.body? cs = some text) :
    Spans cs text := by
  fun_induction JsonString.body? cs generalizing text with
  | case1 | case3 | case4 | case6 | case7 | case9 | case10 | case12 | case14 => simp at h
  | case2 =>
    cases h
    exact ⟨by simp, by simp⟩
  | case5 a b c d e f g i rest u hu _ v hv _ ih =>
    obtain ⟨t, ht, rfl⟩ := Option.map_eq_some_iff.mp h
    have first := unit_visible hu
    have second := unit_visible hv
    exact spans_append ['\\', 'u', a, b, c, d, '\\', 'u', e, f, g, i] (by simp)
      (by simp [first, second]) (ih ht) _
  | case8 a b c d e f g i rest u hu _ _ ih =>
    obtain ⟨t, ht, rfl⟩ := Option.map_eq_some_iff.mp h
    have first := unit_visible hu
    exact spans_append ['\\', 'u', a, b, c, d] (by simp) (by simp [first]) (ih ht) _
  | case11 a b c d rest _ u hu _ ih =>
    obtain ⟨t, ht, rfl⟩ := Option.map_eq_some_iff.mp h
    have first := unit_visible hu
    exact spans_append ['\\', 'u', a, b, c, d] (by simp) (by simp [first]) (ih ht) _
  | case13 c rest _ _ x hx ih =>
    obtain ⟨t, ht, rfl⟩ := Option.map_eq_some_iff.mp h
    exact spans_append ['\\', c] (by simp) (by simp [short_visible hx]) (ih ht) _
  | case15 c rest _ _ _ _ hc ih =>
    obtain ⟨t, ht, rfl⟩ := Option.map_eq_some_iff.mp h
    have visible : 0x20 ≤ c.toNat := by omega
    exact spans_append [c] (by simp) (by simp [visible]) (ih ht) _

end HopProbe.Script
