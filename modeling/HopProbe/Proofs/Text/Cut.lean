import HopProbe.Text.Blank
import Mathlib.Data.List.Induction

/-!
# Pieces that were joined, and texts without their ends
-/

set_option autoImplicit false

namespace HopProbe.Text

variable {α : Type}

section
variable [DecidableEq α]

theorem flatten_pieces (sep : α) (cs : List α) :
    (pieces sep cs).flatten = cs.filter (· ≠ sep) := by
  induction cs with
  | nil => rfl
  | cons c cs ih =>
    by_cases h : c = sep
    · simp [pieces, h, ih]
    · cases hp : pieces sep cs with
      | nil => exact absurd hp (pieces_ne_nil sep cs)
      | cons p ps =>
        rw [hp] at ih
        simpa [pieces, h, hp] using ih

theorem mem_of_mem_pieces {sep c : α} {cs piece : List α} (h : piece ∈ pieces sep cs)
    (hc : c ∈ piece) : c ∈ cs := by
  have inside : c ∈ (pieces sep cs).flatten := List.mem_flatten.mpr ⟨piece, h, hc⟩
  rw [flatten_pieces] at inside
  exact (List.mem_filter.mp inside).1

theorem pieces_of_not_mem {sep : α} {cs : List α} (h : sep ∉ cs) : pieces sep cs = [cs] := by
  induction cs with
  | nil => rfl
  | cons c cs ih =>
    have hc : c ≠ sep := fun e => h (by simp [e])
    rw [pieces, if_neg hc, ih fun m => h (by simp [m])]

theorem length_pieces_eq_one_iff (sep : α) (cs : List α) :
    (pieces sep cs).length = 1 ↔ sep ∉ cs := by
  constructor
  · intro one
    obtain ⟨piece, only⟩ := List.length_eq_one_iff.mp one
    have whole : piece = cs := by simpa [only, joined] using joined_pieces sep cs
    have inside : piece ∈ pieces sep cs := by simp [only]
    exact whole ▸ not_mem_pieces sep cs piece inside
  · intro h
    rw [pieces_of_not_mem h, List.length_singleton]

theorem pieces_append {sep : α} {cs : List α} (h : sep ∉ cs) (rest : List α) :
    pieces sep (cs ++ sep :: rest) = cs :: pieces sep rest := by
  induction cs with
  | nil => simp [pieces]
  | cons c cs ih =>
    have hc : c ≠ sep := fun e => h (by simp [e])
    rw [List.cons_append, pieces, if_neg hc, ih fun m => h (by simp [m])]

theorem pieces_concat (sep : α) (cs rest : List α) :
    pieces sep (cs ++ sep :: rest) = pieces sep cs ++ pieces sep rest := by
  induction cs with
  | nil => simp [pieces]
  | cons c cs ih =>
    by_cases hc : c = sep
    · simp [pieces, hc, ih]
    · cases hp : pieces sep cs with
      | nil => exact absurd hp (pieces_ne_nil sep cs)
      | cons p ps => simp [pieces, hc, ih, hp]

theorem stripStart_append (ps cs : List α) : stripStart ps (ps ++ cs) = some cs := by
  induction ps with
  | nil => rfl
  | cons p ps ih => rw [List.cons_append, stripStart, if_pos rfl, ih]

theorem stripStart_eq_some_iff {ps cs rest : List α} :
    stripStart ps cs = some rest ↔ cs = ps ++ rest := by
  refine ⟨fun h => ?_, fun h => h ▸ stripStart_append ps rest⟩
  fun_induction stripStart ps cs with
  | case1 cs => exact Option.some.inj h
  | case2 => cases h
  | case3 p ps cs ih => rw [ih h, List.cons_append]
  | case4 => cases h

theorem sublist_of_stripStart {ps cs rest : List α} (h : stripStart ps cs = some rest) :
    rest.Sublist cs := by
  rw [stripStart_eq_some_iff.mp h]
  exact List.sublist_append_right ps rest

theorem cutFirst_append {sep : α} {cs : List α} (h : sep ∉ cs) (rest : List α) :
    cutFirst sep (cs ++ sep :: rest) = some (cs, rest) := by
  induction cs with
  | nil => simp [cutFirst]
  | cons c cs ih =>
    have hc : c ≠ sep := fun e => h (by simp [e])
    rw [List.cons_append, cutFirst, if_neg hc, ih fun m => h (by simp [m]), Option.map_some]

theorem append_sep_inj {sep : α} {front back cs ds : List α} (h : sep ∉ front) (h' : sep ∉ back) :
    front ++ sep :: cs = back ++ sep :: ds ↔ front = back ∧ cs = ds := by
  refine ⟨fun same => ?_, fun ⟨first, second⟩ => by rw [first, second]⟩
  have cut := cutFirst_append h cs
  rw [same, cutFirst_append h' ds] at cut
  obtain ⟨first, second⟩ := Prod.mk.inj (Option.some.inj cut)
  exact ⟨first.symm, second.symm⟩

theorem cutFirst_of_not_mem {sep : α} {cs : List α} (h : sep ∉ cs) : cutFirst sep cs = none := by
  induction cs with
  | nil => rfl
  | cons c cs ih =>
    have hc : c ≠ sep := fun e => h (by simp [e])
    rw [cutFirst, if_neg hc, ih fun m => h (by simp [m]), Option.map_none]

theorem cutFirst_front {sep : α} {front : List α} (h : sep ∉ front) (cs : List α) :
    cutFirst sep (front ++ cs) =
      (cutFirst sep cs).map fun (before, after) => (front ++ before, after) := by
  induction front with
  | nil => cases found : cutFirst sep cs <;> simp [found]
  | cons c front ih =>
    have other : c ≠ sep := fun e => h (by simp [e])
    rw [List.cons_append, cutFirst, if_neg other, ih fun hm => h (by simp [hm]), Option.map_map]
    rfl

theorem cutLast_of_not_mem {sep : α} {cs : List α} (h : sep ∉ cs) : cutLast sep cs = none := by
  induction cs with
  | nil => rfl
  | cons c cs ih =>
    have hc : c ≠ sep := fun e => h (by simp [e])
    rw [cutLast, ih fun m => h (by simp [m])]
    exact if_neg hc

theorem cutLast_append {sep : α} {rest : List α} (h : sep ∉ rest) (cs : List α) :
    cutLast sep (cs ++ sep :: rest) = some (cs, rest) := by
  induction cs with
  | nil =>
    rw [List.nil_append, cutLast, cutLast_of_not_mem h]
    exact if_pos rfl
  | cons c cs ih => rw [List.cons_append, cutLast, ih]

theorem pieces_joined {sep : α} {ps : List (List α)} (hne : ps ≠ [])
    (h : ∀ p ∈ ps, sep ∉ p) : pieces sep (joined [sep] ps) = ps := by
  induction ps with
  | nil => exact absurd rfl hne
  | cons p ps ih =>
    have hp : sep ∉ p := h p (by simp)
    cases ps with
    | nil => exact pieces_of_not_mem hp
    | cons q qs =>
      have more : ∀ r ∈ q :: qs, sep ∉ r := fun r hr => h r (by simp [hr])
      rw [joined, List.append_assoc, List.singleton_append, pieces_append hp, ih (by simp) more]
      simp

end

theorem mem_joined {sep : List α} {ps : List (List α)} {c : α} (h : c ∈ joined sep ps) :
    c ∈ sep ∨ ∃ p ∈ ps, c ∈ p := by
  fun_induction joined sep ps with
  | case1 => simp at h
  | case2 p => exact Or.inr ⟨p, by simp, h⟩
  | case3 p ps _ ih =>
    rcases List.mem_append.mp h with h | h
    · rcases List.mem_append.mp h with h | h
      · exact Or.inr ⟨p, by simp, h⟩
      · exact Or.inl h
    · rcases ih h with h | ⟨q, hq, hc⟩
      · exact Or.inl h
      · exact Or.inr ⟨q, by simp [hq], hc⟩

theorem head?_joined {sep p : List α} {c : α} (h : p.head? = some c) (ps : List (List α)) :
    (joined sep (p :: ps)).head? = some c := by
  cases ps with
  | nil => exact h
  | cons q qs => simp [joined, h]

theorem joined_eq_intercalate (sep : List α) (ps : List (List α)) :
    joined sep ps = sep.intercalate ps := by
  induction ps with
  | nil => rfl
  | cons p ps ih =>
    cases ps with
    | nil => simp [joined, List.intercalate]
    | cons q qs =>
      rw [joined, ih]
      · simp [List.intercalate]
      · simp

theorem dropEndWhile_sublist (p : α → Bool) (cs : List α) : (dropEndWhile p cs).Sublist cs := by
  have dropped := (List.dropWhile_sublist (l := cs.reverse) p).reverse
  rwa [List.reverse_reverse] at dropped

theorem exists_dropEndWhile_append (p : α → Bool) (cs : List α) :
    ∃ taken, cs = dropEndWhile p cs ++ taken ∧ ∀ c ∈ taken, p c = true := by
  refine ⟨(cs.reverse.takeWhile p).reverse, ?_, fun c hc => ?_⟩
  · rw [dropEndWhile, ← List.reverse_append, List.takeWhile_append_dropWhile, List.reverse_reverse]
  · exact List.all_eq_true.mp List.all_takeWhile c (List.mem_reverse.mp hc)

theorem dropEndWhile_cons {p : α → Bool} {c : α} (h : p c = false) (cs : List α) :
    dropEndWhile p (c :: cs) = c :: dropEndWhile p cs := by
  by_cases hd : (cs.reverse.dropWhile p).isEmpty
  · simp [dropEndWhile, List.dropWhile_append, hd, h]
    simpa using hd
  · simp [dropEndWhile, List.dropWhile_append, hd]

theorem dropEndWhile_append {p : α → Bool} {front : List α} (h : ∀ c ∈ front, p c = false)
    (cs : List α) : dropEndWhile p (front ++ cs) = front ++ dropEndWhile p cs := by
  induction front with
  | nil => rfl
  | cons c front ih =>
    rw [List.cons_append, dropEndWhile_cons (h c (by simp)), ih fun d hd => h d (by simp [hd])]
    rfl

theorem dropEndWhile_eq_self {p : α → Bool} {cs : List α} (h : ∀ c ∈ cs, p c = false) :
    dropEndWhile p cs = cs := by
  have kept := dropEndWhile_append h []
  rw [List.append_nil] at kept
  exact kept.trans (List.append_nil cs)

theorem trimmed_sublist (cs : List Char) : (trimmed cs).Sublist cs :=
  (dropEndWhile_sublist _ _).trans (List.dropWhile_sublist _)

theorem trimmed_cons {c : Char} (h : isBlank c = false) (cs : List Char) :
    trimmed (c :: cs) = c :: dropEndWhile isBlank cs := by
  rw [trimmed, List.dropWhile_cons_of_neg (by simp [h]), dropEndWhile_cons h]

/-!
## Lines and the breaks behind them

What is taken away from the end of joined lines, where no line holds any of it
but the separator is of its kind, are the empty lines at the end.
-/

theorem dropEndWhile_concat_of_pos {p : α → Bool} {c : α} (h : p c = true) (cs : List α) :
    dropEndWhile p (cs ++ [c]) = dropEndWhile p cs := by
  simp [dropEndWhile, h]

theorem dropEndWhile_concat_of_neg {p : α → Bool} {c : α} (h : p c = false) (cs : List α) :
    dropEndWhile p (cs ++ [c]) = cs ++ [c] := by
  simp [dropEndWhile, h]

theorem joined_concat (sep : List α) {front : List (List α)} (h : front ≠ []) (last : List α) :
    joined sep (front ++ [last]) = joined sep front ++ (sep ++ last) := by
  induction front with
  | nil => exact absurd rfl h
  | cons p front ih =>
    cases front with
    | nil => simp [joined]
    | cons q qs =>
      have more := ih (by simp)
      simp only [List.cons_append] at more
      simp [joined, more]

/-- Without the separators at the end, joined lines are those without the empty ones at the end. -/
theorem dropEndWhile_joined {p : α → Bool} {sep : α} (h : p sep = true) {lines : List (List α)}
    (inside : ∀ line ∈ lines, ∀ c ∈ line, p c = false) :
    dropEndWhile p (joined [sep] lines) = joined [sep] (dropEndWhile List.isEmpty lines) := by
  induction lines using List.reverseRecOn with
  | nil => rfl
  | append_singleton front last ih =>
    have before := ih fun line hl => inside line (by simp [hl])
    cases last using List.reverseRecOn with
    | nil =>
      rw [dropEndWhile_concat_of_pos (by rfl), ← before]
      cases front with
      | nil => rfl
      | cons line rest =>
        rw [joined_concat [sep] (by simp), List.append_nil, dropEndWhile_concat_of_pos h]
    | append_singleton cs c =>
      have kept : p c = false := inside (cs ++ [c]) (by simp) c (by simp)
      rw [dropEndWhile_concat_of_neg (by simp)]
      cases front with
      | nil => exact dropEndWhile_concat_of_neg kept cs
      | cons line rest =>
        rw [joined_concat [sep] (by simp), ← List.append_assoc, ← List.append_assoc,
          dropEndWhile_concat_of_neg kept]

theorem getLast?_dropEndWhile (p : α → Bool) (cs : List α) :
    ∀ c ∈ (dropEndWhile p cs).getLast?, p c = false := by
  intro c hc
  rw [dropEndWhile, List.getLast?_reverse] at hc
  have first := List.head?_dropWhile_not p cs.reverse
  rw [Option.mem_def.mp hc] at first
  simpa using first

theorem joined_dropEndWhile_eq_nil {sep : α} {lines : List (List α)}
    (h : joined [sep] (dropEndWhile List.isEmpty lines) = []) :
    dropEndWhile List.isEmpty lines = [] := by
  have last := getLast?_dropEndWhile List.isEmpty lines
  generalize dropEndWhile List.isEmpty lines = rows at h last
  cases rows using List.reverseRecOn with
  | nil => rfl
  | append_singleton front row =>
    have filled : row.isEmpty = false := last row (by simp)
    cases front with
    | nil =>
      rw [show row = [] from h] at filled
      cases filled
    | cons first rest =>
      rw [joined_concat [sep] (by simp)] at h
      simp at h

/-- Lines are all kept just if the last is not empty. -/
theorem dropEndWhile_isEmpty_eq_self_iff (lines : List (List α)) :
    dropEndWhile List.isEmpty lines = lines ↔ lines.getLast? ≠ some [] := by
  cases lines using List.reverseRecOn with
  | nil => simp [dropEndWhile]
  | append_singleton front last =>
    cases last with
    | nil =>
      refine iff_of_false ?_ (by simp)
      intro same
      rw [dropEndWhile_concat_of_pos (by rfl)] at same
      have length := (dropEndWhile_sublist List.isEmpty front).length_le
      rw [same, List.length_append, List.length_singleton] at length
      omega
    | cons c cs => exact iff_of_true (dropEndWhile_concat_of_neg (by rfl) front) (by simp)

end HopProbe.Text
