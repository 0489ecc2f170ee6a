import HopProbe.Script.Token

/-!
# What a scan keeps

Of a line, a scan drops the quotes and the spaces outside of them. All else
arrives in the tokens, in its order, so a line without tokens holds nothing
but quotes and spaces.
-/

set_option autoImplicit false

namespace HopProbe.Script

theorem isFiller_iff (c : Char) : isFiller c = true ↔ c = ' ' ∨ c = '"' := by
  simp [isFiller]

/-- Characters that neither end a token nor turn a span are added to the token at hand. -/
theorem scan_append {quoted : Bool} {text : List Char} (quoteless : '"' ∉ text)
    (guarded : ' ' ∈ text → quoted = true) (current rest : List Char) :
    scan quoted current (text ++ rest) = scan quoted (current ++ text) rest := by
  induction text generalizing current with
  | nil => simp
  | cons c text ih =>
    have noQuote : c ≠ '"' := fun same => quoteless (by simp [same])
    have noEnd : ¬ (c = ' ' ∧ quoted = false) := by
      rintro ⟨rfl, outside⟩
      rw [guarded (by simp)] at outside
      contradiction
    rw [List.cons_append, scan, if_neg noQuote, if_neg noEnd,
      ih (fun h => quoteless (by simp [h])) (fun h => guarded (by simp [h])),
      List.append_assoc, List.singleton_append]

theorem scan_nil_of_ne {current : List Char} (filled : current ≠ []) (quoted : Bool) :
    scan quoted current [] = [current] := by
  simp [scan, filled]

theorem quote_not_mem_scan {current : List Char} (quoteless : '"' ∉ current) (quoted : Bool)
    (cs : List Char) : ∀ token ∈ scan quoted current cs, '"' ∉ token := by
  fun_induction scan quoted current cs with
  | case1 => simp
  | case2 => simpa using quoteless
  | case3 _ _ _ ih => exact ih quoteless
  | case4 quoted current c cs _ _ ih =>
    intro token hm
    rcases List.mem_cons.mp hm with rfl | hm
    · exact quoteless
    · exact ih (by simp) token hm
  | case5 quoted current c cs noQuote _ ih => exact ih (by simp [quoteless, Ne.symm noQuote])

/-- All that is neither a quote nor a space arrives in the tokens, in its order. -/
theorem visible_scan (quoted : Bool) (current cs : List Char) :
    (scan quoted current cs).flatten.filter (! isFiller ·) =
      (current ++ cs).filter (! isFiller ·) := by
  fun_induction scan quoted current cs with
  | case1 quoted current h => simp_all
  | case2 => simp
  | case3 _ _ _ ih => simpa [isFiller] using ih
  | case4 quoted current c cs _ ends ih =>
    obtain ⟨rfl, -⟩ := ends
    simpa [isFiller] using ih
  | case5 quoted current c cs _ _ ih => rw [ih, List.append_assoc, List.singleton_append]

theorem tokens_of_visible {cs : List Char} {c : Char} (hc : c ∈ cs) (visible : isFiller c = false) :
    tokens cs = scan false [] cs := by
  have other : ¬ cs.all isFiller = true := by
    intro all
    have filler := List.all_eq_true.mp all c hc
    rw [visible] at filler
    contradiction
  rw [tokens, if_neg other]

theorem exists_token_of_visible {cs : List Char} {c : Char} (hc : c ∈ cs)
    (visible : isFiller c = false) : ∃ token ∈ tokens cs, c ∈ token := by
  have kept : c ∈ cs.filter (! isFiller ·) := List.mem_filter.mpr ⟨hc, by simp [visible]⟩
  rw [← List.nil_append cs, ← visible_scan false [] cs, ← tokens_of_visible hc visible] at kept
  exact List.mem_flatten.mp (List.mem_filter.mp kept).1

theorem tokens_eq_nil_iff (cs : List Char) : tokens cs = [] ↔ ∀ c ∈ cs, c = ' ' ∨ c = '"' := by
  constructor
  · intro nothing c hc
    cases visible : isFiller c with
    | true => exact (isFiller_iff c).mp visible
    | false =>
      obtain ⟨token, found, -⟩ := exists_token_of_visible hc visible
      rw [nothing] at found
      contradiction
  · intro all
    have fillers : cs.all isFiller = true :=
      List.all_eq_true.mpr fun c hc => (isFiller_iff c).mpr (all c hc)
    rw [tokens, if_pos fillers]

theorem exists_visible {cs : List Char} (h : tokens cs ≠ []) : ∃ c ∈ cs, isFiller c = false := by
  by_cases all : cs.all isFiller = true
  · rw [tokens, if_pos all] at h
    contradiction
  · simpa using all

theorem tokens_eq_scan {cs : List Char} (h : tokens cs ≠ []) : tokens cs = scan false [] cs := by
  obtain ⟨c, hc, visible⟩ := exists_visible h
  exact tokens_of_visible hc visible

theorem mem_of_mem_token {cs token : List Char} (there : token ∈ tokens cs) {c : Char}
    (hc : c ∈ token) (visible : isFiller c = false) : c ∈ cs := by
  have some : tokens cs ≠ [] := List.ne_nil_of_mem there
  rw [tokens_eq_scan some] at there
  have kept : c ∈ (scan false [] cs).flatten.filter (! isFiller ·) :=
    List.mem_filter.mpr ⟨List.mem_flatten.mpr ⟨token, there, hc⟩, by simp [visible]⟩
  rw [visible_scan, List.nil_append] at kept
  exact (List.mem_filter.mp kept).1

theorem quote_not_mem_tokens (cs : List Char) : ∀ token ∈ tokens cs, '"' ∉ token := by
  unfold tokens
  split
  · simp
  · exact quote_not_mem_scan (by simp) false cs

end HopProbe.Script
