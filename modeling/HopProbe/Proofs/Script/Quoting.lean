import HopProbe.Proofs.Script.Scan
import HopProbe.Proofs.Text.Cut

/-!
# Lines written from tokens

Texts can be written as a line, each of them between quotes or, without spaces
in it, as it is, and a space behind each. The tokens of that line are the
texts again, and no line has other tokens than such texts.
-/

set_option autoImplicit false

namespace HopProbe.Script
open HopProbe.Text

/-- Texts that can be the tokens of a line. -/
structure Quotable (texts : List (List Char)) : Prop where
  quoteless : ∀ text ∈ texts, '"' ∉ text
  visible : ∃ text ∈ texts, ∃ c ∈ text, c ≠ ' '

inductive Cell (text : List Char) : List Char → Prop
  | quoted : Cell text ('"' :: text ++ ['"'])
  | bare (spaceless : ' ' ∉ text) : Cell text text

/-- The lines that texts can be written as. The space behind the last text can
be left out, unless there would be nothing to end there. -/
inductive Lined : List (List Char) → List Char → Prop
  | nil : Lined [] []
  | last {text cell : List Char} (filled : text ≠ []) (only : Cell text cell) : Lined [text] cell
  | cons {text cell line : List Char} {texts : List (List Char)} (first : Cell text cell)
    (more : Lined texts line) : Lined (text :: texts) (cell ++ ' ' :: line)

theorem exists_lined (texts : List (List Char)) : ∃ line, Lined texts line := by
  induction texts with
  | nil => exact ⟨[], .nil⟩
  | cons text texts ih =>
    obtain ⟨line, more⟩ := ih
    exact ⟨_, .cons .quoted more⟩

theorem scan_cell {text cell : List Char} (quoteless : '"' ∉ text) (h : Cell text cell)
    (rest : List Char) : scan false [] (cell ++ rest) = scan false text rest := by
  cases h with
  | quoted =>
    have inside : scan true [] (text ++ '"' :: rest) = scan true text ('"' :: rest) :=
      scan_append quoteless (fun _ => rfl) [] _
    simpa [scan] using inside
  | bare spaceless => exact scan_append quoteless (fun h => absurd h spaceless) [] rest

theorem scan_lined {texts : List (List Char)} {line : List Char} (h : Lined texts line)
    (quoteless : ∀ text ∈ texts, '"' ∉ text) : scan false [] line = texts := by
  induction h with
  | nil => rfl
  | @last text cell filled only =>
    rw [← List.append_nil cell, scan_cell (quoteless text (by simp)) only, scan_nil_of_ne filled]
  | @cons text cell line texts first more ih =>
    have ended : scan false text (' ' :: line) = text :: scan false [] line := by simp [scan]
    have others := ih fun t ht => quoteless t (by simp [ht])
    rw [scan_cell (quoteless text (by simp)) first, ended, others]

theorem tokens_lined {texts : List (List Char)} {line : List Char} (quotable : Quotable texts)
    (h : Lined texts line) : tokens line = texts := by
  have read := scan_lined h quotable.quoteless
  obtain ⟨text, ht, c, hc, space⟩ := quotable.visible
  have quote : c ≠ '"' := by
    rintro rfl
    exact quotable.quoteless text ht hc
  have visible : isFiller c = false := by simp [isFiller, space, quote]
  have found : c ∈ texts.flatten.filter (! isFiller ·) :=
    List.mem_filter.mpr ⟨List.mem_flatten.mpr ⟨text, ht, hc⟩, by simp [visible]⟩
  rw [← read, visible_scan, List.nil_append] at found
  rw [tokens_of_visible (List.mem_filter.mp found).1 visible, read]

theorem quotable_tokens {cs : List Char} (h : tokens cs ≠ []) : Quotable (tokens cs) := by
  obtain ⟨c, hc, visible⟩ := exists_visible h
  obtain ⟨token, ht, hc⟩ := exists_token_of_visible hc visible
  refine ⟨quote_not_mem_tokens cs, token, ht, c, hc, ?_⟩
  rintro rfl
  contradiction

theorem tokens_lined_tokens {cs again : List Char} (h : Lined (tokens cs) again) :
    tokens again = tokens cs := by
  by_cases nothing : tokens cs = []
  · rw [nothing] at h ⊢
    cases h
    rfl
  · exact tokens_lined (quotable_tokens nothing) h

theorem map_toList_tokenize (line : String) :
    (tokenize line).map String.toList = tokens line.toList := by
  simp [tokenize, Function.comp_def]

theorem tokenize_eq_iff {line : String} {texts : List String} :
    tokenize line = texts ↔ tokens line.toList = texts.map String.toList := by
  rw [← map_toList_tokenize]
  exact (List.map_inj_right fun _ _ => String.toList_inj.mp).symm

/-- Reading the tokens of a line undoes writing them, and lists of texts that
can be written are all that is read. -/
theorem tokenize_undoes_quoting :
    (∀ (texts : List String) (line : String), Quotable (texts.map String.toList) →
      Lined (texts.map String.toList) line.toList → tokenize line = texts) ∧
    (∀ texts : List String, texts ≠ [] →
      ((∃ line, tokenize line = texts) ↔ Quotable (texts.map String.toList))) ∧
    ∀ line again : String, Lined ((tokenize line).map String.toList) again.toList →
      tokenize again = tokenize line := by
  have undone (texts : List String) (line : String) (quotable : Quotable (texts.map String.toList))
      (h : Lined (texts.map String.toList) line.toList) : tokenize line = texts :=
    tokenize_eq_iff.mpr (tokens_lined quotable h)
  refine ⟨undone, fun texts filled => ⟨?_, fun quotable => ?_⟩, fun line again h => ?_⟩
  · rintro ⟨line, read⟩
    rw [← read, map_toList_tokenize]
    apply quotable_tokens
    rw [tokenize_eq_iff.mp read]
    simpa using filled
  · obtain ⟨line, h⟩ := exists_lined (texts.map String.toList)
    exact ⟨String.ofList line, undone texts _ quotable (by simpa using h)⟩
  · rw [map_toList_tokenize] at h
    rw [tokenize_eq_iff, map_toList_tokenize]
    exact tokens_lined_tokens h

theorem tokenize_undoes_quoting_of_empty_texts :
    tokenize "\"\"  \"  \" INFO \"a b\" \"\" " = ["", "", "  ", "INFO", "a b", ""] ∧
      tokenize "\"\"  \"  \" INFO \"a b\"" = ["", "", "  ", "INFO", "a b"] := by
  obtain ⟨undone, -, -⟩ := tokenize_undoes_quoting
  have quotable (texts : List String) (quoteless : ∀ text ∈ texts, '"' ∉ text.toList)
      (word : "INFO" ∈ texts) : Quotable (texts.map String.toList) :=
    ⟨by simpa using quoteless, _, List.mem_map.mpr ⟨_, word, rfl⟩, 'I', by decide, by decide⟩
  constructor
  · refine undone _ _ (quotable _ (by decide) (by decide)) ?_
    exact .cons .quoted (.cons (.bare (by decide)) (.cons .quoted (.cons (.bare (by decide))
      (.cons .quoted (.cons .quoted .nil)))))
  · refine undone _ _ (quotable _ (by decide) (by decide)) ?_
    exact .cons .quoted (.cons (.bare (by decide)) (.cons .quoted (.cons (.bare (by decide))
      (.last (by decide) .quoted))))

theorem lined_joined {texts : List (List Char)} (spaceless : ∀ text ∈ texts, ' ' ∉ text)
    (filled : texts.getLast? ≠ some []) : Lined texts (joined [' '] texts) := by
  induction texts with
  | nil => exact .nil
  | cons text texts ih =>
    have bare : Cell text text := .bare (spaceless text (by simp))
    cases texts with
    | nil => exact .last (by simpa using filled) bare
    | cons next texts =>
      have more := ih (fun t ht => spaceless t (by simp [ht])) (by simpa using filled)
      rw [joined, List.append_assoc, List.singleton_append]
      · exact .cons bare more
      · simp

theorem lined_joined_concat {texts : List (List Char)} (spaceless : ∀ text ∈ texts, ' ' ∉ text) :
    Lined texts (joined [' '] (texts ++ [[]])) := by
  induction texts with
  | nil => exact .nil
  | cons text texts ih =>
    have more := ih fun t ht => spaceless t (by simp [ht])
    rw [List.cons_append, joined, List.append_assoc, List.singleton_append]
    · exact .cons (.bare (spaceless text (by simp))) more
    · simp

theorem tokens_joined {cs : List Char} (spaceless : ∀ token ∈ tokens cs, ' ' ∉ token) :
    tokens (joined [' '] (tokens cs)) =
      if (tokens cs).getLast? = some [] then (tokens cs).dropLast else tokens cs := by
  split
  · next emptied =>
    obtain ⟨front, whole⟩ := List.getLast?_eq_some_iff.mp emptied
    have quotable : Quotable (tokens cs) := quotable_tokens (by simp [whole])
    rw [whole] at quotable spaceless ⊢
    -- What is not spaces stands in one of the other texts, so these alone make a line.
    have kept : Quotable front := by
      refine ⟨fun t ht => quotable.quoteless t (by simp [ht]), ?_⟩
      obtain ⟨text, ht, c, hc, space⟩ := quotable.visible
      rcases List.mem_append.mp ht with ht | ht
      · exact ⟨text, ht, c, hc, space⟩
      · simp_all
    rw [tokens_lined kept (lined_joined_concat fun t ht => spaceless t (by simp [ht])),
      List.dropLast_concat]
  · next filled => exact tokens_lined_tokens (lined_joined spaceless filled)

/-- Joined by spaces and read again, tokens without spaces are the same, but
for a last one that is empty: nothing of it is left in the joined line. -/
theorem tokenize_joined {line : String} (spaceless : ∀ token ∈ tokenize line, ' ' ∉ token.toList) :
    tokenize (" ".intercalate (tokenize line)) =
      if (tokenize line).getLast? = some "" then (tokenize line).dropLast else tokenize line := by
  have bare : ∀ token ∈ tokens line.toList, ' ' ∉ token := by
    rw [← map_toList_tokenize]
    simpa using spaceless
  have emptied : (tokens line.toList).getLast? = some [] ↔ (tokenize line).getLast? = some "" := by
    rw [← map_toList_tokenize, List.getLast?_map]
    simp
  have read := tokens_joined bare
  simp only [emptied] at read
  rw [tokenize_eq_iff, String.toList_intercalate, ← joined_eq_intercalate, map_toList_tokenize,
    apply_ite (List.map String.toList), List.map_dropLast, map_toList_tokenize]
  exact read

theorem tokenize_joined_of_odd_places :
    let line := "  INFO \"\" \"HOST\"NAME  "
    (∀ token ∈ tokenize line, ' ' ∉ token.toList) ∧
      tokenize (" ".intercalate (tokenize line)) = ["", "", "INFO", "", "HOSTNAME"] ∧
      tokenize line = ["", "", "INFO", "", "HOSTNAME", ""] := by
  intro line
  have found : tokenize line = ["", "", "INFO", "", "HOSTNAME", ""] := by decide
  have spaceless : ∀ token ∈ tokenize line, ' ' ∉ token.toList := by
    rw [found]
    decide
  refine ⟨spaceless, ?_, found⟩
  rw [tokenize_joined spaceless, found]
  decide

/-- Two spaces at the end of a line make an empty token, which one space does not. -/
theorem empty_end_is_lost :
    ¬ ∀ line : String, (∀ token ∈ tokenize line, ' ' ∉ token.toList) →
      tokenize (" ".intercalate (tokenize line)) = tokenize line := by
  intro same
  have lost := same "a  " (by decide)
  revert lost
  decide

end HopProbe.Script
