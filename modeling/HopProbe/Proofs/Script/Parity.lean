import HopProbe.Proofs.Script.Scan

/-!
# Tokens by the quotes before a space

What the tokens of a line are can be said without a scan. A space ends a token
just where an even number of quotes stands before it. The line is cut there,
the quotes are taken out, and a last part with nothing in it is no token.
-/

set_option autoImplicit false

namespace HopProbe.Script

/-- The places of the spaces that an even number of quotes stands before,
where `quotes` of them stand in front of the text. -/
def cutPlaces (quotes : Nat) (cs : List Char) : List Nat :=
  (List.range cs.length).filter fun i =>
    cs[i]? = some ' ' ∧ (quotes + (cs.take i).count '"') % 2 = 0

def slice (cs : List Char) (first last : Nat) : List Char := (cs.take last).drop first

def partsAt (places : List Nat) (cs : List Char) : List (List Char) :=
  List.zipWith (slice cs) (0 :: places.map (· + 1)) (places ++ [cs.length])

def unquoted (part : List Char) : List Char := part.filter (· ≠ '"')

/-- A last part that is empty is left out, and no other. -/
def withoutEmptyEnd (parts : List (List Char)) : List (List Char) :=
  if parts.getLast? = some [] then parts.dropLast else parts

def bareParts (quotes : Nat) (cs : List Char) : List (List Char) :=
  (partsAt (cutPlaces quotes cs) cs).map unquoted

def tokensByParity (cs : List Char) : List (List Char) :=
  if cs.all fun c => c = ' ' ∨ c = '"' then [] else withoutEmptyEnd (bareParts 0 cs)

theorem cutPlaces_cons (quotes : Nat) (c : Char) (cs : List Char) :
    cutPlaces quotes (c :: cs) =
      (if c = ' ' ∧ quotes % 2 = 0 then [0] else []) ++
        (cutPlaces (quotes + [c].count '"') cs).map (· + 1) := by
  have later (i : Nat) : quotes + ((c :: cs).take (i + 1)).count '"' =
      quotes + [c].count '"' + (cs.take i).count '"' := by
    rw [List.take_succ_cons, ← List.singleton_append, List.count_append, Nat.add_assoc]
  rw [cutPlaces, List.length_cons, List.range_succ_eq_map, List.filter_cons, List.filter_map]
  simp only [cutPlaces, Function.comp_def, Nat.succ_eq_add_one, later, List.getElem?_cons_succ]
  split <;> simp_all

theorem zipWith_slice_shift (firsts lasts : List Nat) (c : Char) (cs : List Char) :
    List.zipWith (slice (c :: cs)) (firsts.map (· + 1)) (lasts.map (· + 1)) =
      List.zipWith (slice cs) firsts lasts := by
  rw [List.zipWith_map]
  rfl

theorem partsAt_cut (places : List Nat) (c : Char) (cs : List Char) :
    partsAt (0 :: places.map (· + 1)) (c :: cs) = [] :: partsAt places cs := by
  have lasts : 0 :: places.map (· + 1) ++ [(c :: cs).length] =
      0 :: (places ++ [cs.length]).map (· + 1) := by simp
  rw [partsAt, lasts, List.zipWith_cons_cons, zipWith_slice_shift]
  rfl

theorem partsAt_shift (places : List Nat) (c : Char) (cs : List Char) :
    partsAt (places.map (· + 1)) (c :: cs) = (partsAt places cs).modifyHead (c :: ·) := by
  cases places with
  | nil => simp [partsAt, slice]
  | cons p ps =>
    have lasts : (p :: ps).map (· + 1) ++ [(c :: cs).length] =
        (p + 1) :: (ps ++ [cs.length]).map (· + 1) := by simp
    rw [partsAt, lasts, List.zipWith_cons_cons, zipWith_slice_shift]
    rfl

theorem bareParts_nil (quotes : Nat) : bareParts quotes [] = [[]] := rfl

theorem bareParts_cut {quotes : Nat} (even : quotes % 2 = 0) (cs : List Char) :
    bareParts quotes (' ' :: cs) = [] :: bareParts quotes cs := by
  have places : cutPlaces quotes (' ' :: cs) = 0 :: (cutPlaces quotes cs).map (· + 1) := by
    simp [cutPlaces_cons, even]
  rw [bareParts, places, partsAt_cut]
  rfl

theorem bareParts_quote (quotes : Nat) (cs : List Char) :
    bareParts quotes ('"' :: cs) = bareParts (quotes + 1) cs := by
  have places : cutPlaces quotes ('"' :: cs) = (cutPlaces (quotes + 1) cs).map (· + 1) := by
    simp [cutPlaces_cons]
  rw [bareParts, places, partsAt_shift, bareParts]
  cases partsAt (cutPlaces (quotes + 1) cs) cs <;> rfl

theorem bareParts_cons {quotes : Nat} {c : Char} (noQuote : c ≠ '"')
    (inside : ¬ (c = ' ' ∧ quotes % 2 = 0)) (cs : List Char) :
    bareParts quotes (c :: cs) = (bareParts quotes cs).modifyHead (c :: ·) := by
  have places : cutPlaces quotes (c :: cs) = (cutPlaces quotes cs).map (· + 1) := by
    simp [cutPlaces_cons, inside, noQuote]
  rw [bareParts, places, partsAt_shift, bareParts]
  cases partsAt (cutPlaces quotes cs) cs <;> simp [unquoted, noQuote]

theorem modifyHead_nil_append (parts : List (List Char)) :
    parts.modifyHead ([] ++ ·) = parts := by
  cases parts <;> rfl

theorem bareParts_ne_nil (quotes : Nat) (cs : List Char) : bareParts quotes cs ≠ [] := by
  cases places : cutPlaces quotes cs <;> simp [bareParts, partsAt, places]

theorem withoutEmptyEnd_cons (part : List Char) {parts : List (List Char)} (more : parts ≠ []) :
    withoutEmptyEnd (part :: parts) = part :: withoutEmptyEnd parts := by
  obtain ⟨next, rest, rfl⟩ := List.exists_cons_of_ne_nil more
  simp only [withoutEmptyEnd, List.getLast?_cons_cons]
  split <;> simp

/-- A scan is within a span just when an odd number of quotes is behind it. -/
def Parity (quoted : Bool) (quotes : Nat) : Prop := quoted = true ↔ quotes % 2 = 1

theorem Parity.start : Parity false 0 := by
  simp [Parity]

theorem Parity.turned {quoted : Bool} {quotes : Nat} (h : Parity quoted quotes) :
    Parity (!quoted) (quotes + 1) := by
  unfold Parity at h ⊢
  cases quoted <;> simp at h ⊢ <;> omega

theorem Parity.outside {quotes : Nat} (h : Parity false quotes) : quotes % 2 = 0 := by
  simp only [Parity, Bool.false_eq_true, false_iff] at h
  omega

theorem Parity.not_cut {quoted : Bool} {quotes : Nat} (h : Parity quoted quotes) {c : Char}
    (inside : ¬ (c = ' ' ∧ quoted = false)) : ¬ (c = ' ' ∧ quotes % 2 = 0) := by
  rintro ⟨rfl, even⟩
  cases quoted with
  | false => exact inside ⟨rfl, rfl⟩
  | true =>
    have odd := h.mp rfl
    omega

/-- A scan ends a token just where the line is cut. -/
theorem scan_eq_bareParts {quoted : Bool} {quotes : Nat} (parity : Parity quoted quotes)
    (current cs : List Char) :
    scan quoted current cs =
      withoutEmptyEnd ((bareParts quotes cs).modifyHead (current ++ ·)) := by
  -- The flag of the scan is the parity of the quotes behind it, and a quote turns both.
  fun_induction scan quoted current cs generalizing quotes with
  | case1 quoted current nothing => simp_all [bareParts_nil, withoutEmptyEnd]
  | case2 quoted current something => simp_all [bareParts_nil, withoutEmptyEnd]
  | case3 quoted current cs ih => rw [ih parity.turned, bareParts_quote]
  | case4 quoted current c cs _ ends ih =>
    obtain ⟨rfl, rfl⟩ := ends
    rw [ih parity, bareParts_cut parity.outside, List.modifyHead_cons,
      withoutEmptyEnd_cons _ (bareParts_ne_nil quotes cs), modifyHead_nil_append, List.append_nil]
  | case5 quoted current c cs noQuote inside ih =>
    rw [ih parity, bareParts_cons noQuote (parity.not_cut inside), List.modifyHead_modifyHead]
    simp [Function.comp_def]

theorem tokens_eq_byParity (cs : List Char) : tokens cs = tokensByParity cs := by
  unfold tokensByParity
  split
  · next fillers => exact (tokens_eq_nil_iff cs).mpr (by simpa using fillers)
  · next other =>
    have found : tokens cs ≠ [] := by
      rw [ne_eq, tokens_eq_nil_iff]
      simpa using other
    rw [tokens_eq_scan found, scan_eq_bareParts .start, modifyHead_nil_append]

theorem scan_unclosed {quoted : Bool} {quotes : Nat} (parity : Parity quoted quotes)
    {before after : List Char} (opened : (quotes + before.count '"') % 2 = 1)
    (unclosed : '"' ∉ after) (filled : after ≠ []) (current : List Char) :
    ∃ front last, scan quoted current (before ++ after) = front ++ [last ++ after] ∧
      front.length = (cutPlaces quotes before).length := by
  induction before generalizing quoted quotes current with
  | nil =>
    obtain rfl : quoted = true := parity.mpr (by simpa using opened)
    refine ⟨[], current, ?_, rfl⟩
    rw [List.nil_append, ← List.append_nil after, scan_append (by simpa using unclosed) (by simp),
      scan_nil_of_ne (by simp [filled])]
    simp
  | cons c before ih =>
    rw [List.cons_append, scan]
    by_cases quote : c = '"'
    · subst quote
      obtain ⟨front, last, read, count⟩ :=
        ih parity.turned (by simpa [List.count_cons, Nat.add_assoc, Nat.add_comm 1] using opened)
          current
      exact ⟨front, last, by simpa using read, by simp [count, cutPlaces_cons]⟩
    · rw [if_neg quote]
      have opened : (quotes + before.count '"') % 2 = 1 := by
        simpa [List.count_cons, quote] using opened
      by_cases ends : c = ' ' ∧ quoted = false
      · obtain ⟨rfl, rfl⟩ := ends
        obtain ⟨front, last, read, count⟩ := ih parity opened []
        refine ⟨current :: front, last, by simp [read], ?_⟩
        simp [count, cutPlaces_cons, parity.outside]
      · obtain ⟨front, last, read, count⟩ := ih parity opened (current ++ [c])
        refine ⟨front, last, by simpa [ends] using read, ?_⟩
        simp [count, cutPlaces_cons, parity.not_cut ends, quote]

theorem parse_eq_none_iff (line : String) : Command.parse line = none ↔ tokenize line = [] := by
  unfold Command.parse
  split <;> simp_all

/-- The tokens of a line by the quotes before its spaces. Only a line of spaces
and quotes is no command, and a quote that is not closed guards all spaces behind it. -/
theorem tokenize_by_parity (line : String) :
    tokenize line = (tokensByParity line.toList).map String.ofList ∧
      (Command.parse line = none ↔ ∀ c ∈ line.toList, c = ' ' ∨ c = '"') ∧
      ∀ before after, line.toList = before ++ after → before.count '"' % 2 = 1 → '"' ∉ after →
        after ≠ [] → tokenize line ≠ [] →
        ∃ front last, tokenize line = front ++ [String.ofList (last ++ after)] ∧
          front.length = (cutPlaces 0 before).length := by
  refine ⟨by rw [tokenize, tokens_eq_byParity], ?_, ?_⟩
  · rw [parse_eq_none_iff, tokenize, List.map_eq_nil_iff, tokens_eq_nil_iff]
  · intro before after whole opened unclosed filled command
    have found : tokens line.toList ≠ [] := by simpa [tokenize] using command
    obtain ⟨front, last, read, count⟩ :=
      scan_unclosed .start (by simpa using opened) unclosed filled []
    refine ⟨front.map String.ofList, last, ?_, by simpa using count⟩
    rw [tokenize, tokens_eq_scan found, whole, read]
    simp

theorem tokenize_by_parity_of_unclosed :
    let line := "A  \"b c\"d \"e  f"
    tokenize line = ["A", "", "b cd", "e  f"] ∧ Command.parse line ≠ none ∧
      ∃ front last, tokenize line = front ++ [String.ofList (last ++ "e  f".toList)] ∧
        front.length = 3 := by
  intro line
  obtain ⟨read, parsed, unclosed⟩ := tokenize_by_parity line
  have found : tokenize line = ["A", "", "b cd", "e  f"] := by
    rw [read]
    decide
  refine ⟨found, fun nothing => absurd (parsed.mp nothing 'A' (by decide)) (by decide), ?_⟩
  exact unclosed "A  \"b c\"d \"".toList "e  f".toList (by decide) (by decide) (by decide)
    (by decide) (by simp [found])

end HopProbe.Script
