import HopProbe.Proofs.Service.Transport

/-!
# The text of a form

A form that was written from pairs is flattened into their names and values.
Text that was never written as a form, but was sent as one, loses what
separates pairs: its ampersands, and an equals sign behind which its piece
ends, unless there is another one in front.
-/

set_option autoImplicit false

namespace HopProbe.Service
open HopProbe.Text

theorem flattened_eq (pairs : List (List Char × List Char)) :
    flattened pairs =
      pairs.flatMap fun (name, value) => if value = [] then name else name ++ '=' :: value := by
  simp only [flattened, List.isEmpty_iff]

/-- However the pairs of a form are written, its text is their names and values in order. -/
theorem decodeBody_of_pairs {declared : String} (form : TypedForm declared)
    (narrow : ¬ DeclaresUtf16 declared) (pairs : List (List Char × List Char)) :
    let text := pairs.flatMap fun (name, value) =>
      if value = [] then name else name ++ '=' :: value
    decodeBody (some declared) (Utf8.encode (Url.Form.encode pairs)) = text ∧
    ∀ ways, List.Forall₂ Url.Form.WritesPair pairs ways →
      (joined ['&'] ways).head? ≠ some '\uFEFF' →
      decodeBody (some declared) (Utf8.encode (joined ['&'] ways)) = text := by
  intro text
  have read : text = flattened pairs := (flattened_eq pairs).symm
  have written : List.Forall₂ Url.Form.WritesPair pairs
      (pairs.map fun (name, value) =>
        Url.Form.encodeComponent name ++ '=' :: Url.Form.encodeComponent value) := by
    rw [List.forall₂_map_right_iff]
    exact List.forall₂_same.mpr fun p _ => Url.Form.writesPair_encode p.1 p.2
  have bare : (Url.Form.encode pairs).head? ≠ some '\uFEFF' := by
    intro mark
    exact absurd (Url.Form.ascii_encode (List.mem_of_head? mark)) (by decide)
  rw [read]
  exact ⟨decodeBody_of_ways form narrow written bare,
    fun ways other noMark => decodeBody_of_ways form narrow other noMark⟩

theorem decodeBody_of_pairs_with_marks :
    let declared := "Application/X-WWW-Form-Urlencoded ; charset=utf-8"
    let text := "a=b=é&x +=\n=".toList
    decodeBody (some declared) (Utf8.bytes "a%3Db=&=%C3%A9%26&=&x+%2B=%0A%3D") = text ∧
    decodeBody (some declared) (Utf8.bytes "a%3Db&=%C3%A9%26&=&x+%2B=%0A%3D") = text := by
  intro declared text
  let form := [("a=b".toList, []), ([], "é&".toList), ([], []), ("x +".toList, "\n=".toList)]
  have typed : TypedForm declared := (isForm_iff declared).mp (by decide)
  have narrow : ¬ DeclaresUtf16 declared := fun wide =>
    absurd ((declaresUtf16_iff declared).mpr wide) (by decide)
  obtain ⟨encoded, others⟩ := decodeBody_of_pairs typed narrow form
  have shorter := others
    ["a%3Db".toList, "=%C3%A9%26".toList, "=".toList, "x+%2B=%0A%3D".toList]
    (.cons (.bare (Url.Form.written_encodeComponent _) (by decide))
      (.cons (Url.Form.writesPair_encode _ _) (.cons (Url.Form.writesPair_encode _ _)
        (.cons (Url.Form.writesPair_encode _ _) .nil))))
    (by decide)
  have bytes : Utf8.bytes "a%3Db=&=%C3%A9%26&=&x+%2B=%0A%3D" = Utf8.encode (Url.Form.encode form) :=
    by decide
  have fewer : Utf8.bytes "a%3Db&=%C3%A9%26&=&x+%2B=%0A%3D" = Utf8.encode (joined ['&']
      ["a%3Db".toList, "=%C3%A9%26".toList, "=".toList, "x+%2B=%0A%3D".toList]) := by
    decide
  rw [bytes, fewer]
  exact ⟨encoded, shorter⟩

/-- A piece without its final equals sign, if that is the only one. -/
def unvalued (piece : List Char) : List Char :=
  match cutFirst '=' piece with
  | some (name, []) => name
  | _ => piece

theorem unvalued_sublist (piece : List Char) : (unvalued piece).Sublist piece := by
  unfold unvalued
  split
  · next name found =>
    obtain ⟨rfl, -⟩ := cutFirst_eq_some found
    exact List.sublist_append_left name ['=']
  · exact List.Sublist.refl piece

theorem unvalued_eq_self_iff (piece : List Char) :
    unvalued piece = piece ↔ ∀ name, '=' ∉ name → piece ≠ name ++ ['='] := by
  constructor
  · rintro same name apart rfl
    have cut : unvalued (name ++ ['=']) = name := by rw [unvalued, cutFirst_append apart]
    simp [cut] at same
  · intro other
    unfold unvalued
    split
    · next name found =>
      obtain ⟨whole, apart⟩ := cutFirst_eq_some found
      exact absurd whole (other name apart)
    · rfl

theorem flattened_pair {piece : List Char} (noPercent : '%' ∉ piece) (noPlus : '+' ∉ piece) :
    flattened [Url.Form.pair (Utf8.encode piece)] = unvalued piece := by
  rw [Url.Form.pair_plain noPercent noPlus]
  unfold unvalued
  cases found : cutFirst '=' piece with
  | none => simp [flattened]
  | some parts =>
    obtain ⟨name, value⟩ := parts
    obtain ⟨rfl, -⟩ := cutFirst_eq_some found
    cases value <;> simp [flattened]

section
variable {text : List Char}

theorem flattened_pairs (noPercent : '%' ∉ text) (noPlus : '+' ∉ text) :
    flattened (Url.Form.pairs (Utf8.encode text)) = (pieces '&' text).flatMap unvalued := by
  have read := Url.Form.pairs_joined (not_mem_pieces '&' text)
  rw [joined_pieces] at read
  have each : ∀ piece ∈ pieces '&' text,
      flattened [Url.Form.pair (Utf8.encode piece)] = unvalued piece := fun piece inside =>
    flattened_pair (fun mark => noPercent (mem_of_mem_pieces inside mark))
      (fun mark => noPlus (mem_of_mem_pieces inside mark))
  rw [read]
  generalize pieces '&' text = ps at each
  induction ps with
  | nil => rfl
  | cons p ps ih =>
    have later := ih fun piece inside => each piece (.tail p inside)
    have first := each p (.head ps)
    -- An empty piece is no pair, and leaves nothing either.
    cases p with
    | nil => exact later
    | cons c p =>
      rw [List.filter_cons_of_pos (by simp), List.map_cons, List.flatMap_cons, ← first, ← later]
      simp [flattened]

theorem pairs_eq_nil_iff : Url.Form.pairs (Utf8.encode text) = [] ↔ ∀ c ∈ text, c = '&' := by
  have read := Url.Form.pairs_joined (not_mem_pieces '&' text)
  rw [joined_pieces] at read
  have empty : (pieces '&' text).flatten = [] ↔ ∀ c ∈ text, c = '&' := by
    simp [flatten_pieces, List.filter_eq_nil_iff]
  rw [← empty, read, List.flatten_eq_nil_iff, List.map_eq_nil_iff, List.filter_eq_nil_iff]
  simp

theorem flatMap_unvalued_sublist (text : List Char) :
    ((pieces '&' text).flatMap unvalued).Sublist (text.filter (· ≠ '&')) := by
  rw [← flatten_pieces]
  generalize pieces '&' text = ps
  induction ps with
  | nil => exact List.Sublist.refl _
  | cons p ps ih => exact (unvalued_sublist p).append ih

/-- Nothing is lost of a text in one piece that does not end in its first equals sign. -/
theorem flatMap_unvalued_eq_self_iff : (pieces '&' text).flatMap unvalued = text ↔
    '&' ∉ text ∧ ∀ name, '=' ∉ name → text ≠ name ++ ['='] := by
  have one : '&' ∉ text → (pieces '&' text).flatMap unvalued = unvalued text := fun none => by
    rw [pieces_of_not_mem none, List.flatMap_singleton]
  constructor
  · intro same
    have kept := flatMap_unvalued_sublist text
    rw [same] at kept
    have filtered : text.filter (· ≠ '&') = text := List.filter_sublist.antisymm kept
    have none : '&' ∉ text := fun inside => by
      simpa using List.filter_eq_self.mp filtered '&' inside
    exact ⟨none, (unvalued_eq_self_iff text).mp (one none ▸ same)⟩
  · rintro ⟨none, whole⟩
    rw [one none, (unvalued_eq_self_iff text).mpr whole]

/-- What was typed is read back if it is all in one name, or all in one name and its value. -/
theorem decodeBody_of_raw {declared : String} (form : TypedForm declared)
    (narrow : ¬ DeclaresUtf16 declared) (noPercent : '%' ∉ text) (noPlus : '+' ∉ text)
    (bare : text.head? ≠ some '\uFEFF') :
    let read := decodeBody (some declared) (Utf8.encode text)
    (read = text ↔
      (∀ c ∈ text, c = '&') ∨ '&' ∉ text ∧ ∀ name, '=' ∉ name → text ≠ name ++ ['=']) ∧
    ((∃ c ∈ text, c ≠ '&') → read = (pieces '&' text).flatMap unvalued) := by
  intro read
  have body : read = if (∀ c ∈ text, c = '&') then text else (pieces '&' text).flatMap unvalued := by
    simp only [read, decodeBody_of_form form narrow bare, pairs_eq_nil_iff,
      flattened_pairs noPercent noPlus]
  by_cases only : ∀ c ∈ text, c = '&'
  · have same : read = text := by rw [body, if_pos only]
    exact ⟨iff_of_true same (.inl only), fun ⟨c, inside, other⟩ => absurd (only c inside) other⟩
  · rw [if_neg only] at body
    exact ⟨by rw [body, or_iff_right only, flatMap_unvalued_eq_self_iff], fun _ => body⟩

theorem decodeBody_of_raw_query :
    let declared := "application/x-www-form-urlencoded"
    let text := "HTTP GET http://peer/?a=1&b=2".toList
    ¬ decodeBody (some declared) (Utf8.encode text) = text ∧
    decodeBody (some declared) (Utf8.encode text) = "HTTP GET http://peer/?a=1b=2".toList := by
  intro declared text
  have form : TypedForm declared := (isForm_iff declared).mp (by decide)
  have narrow : ¬ DeclaresUtf16 declared := fun wide =>
    absurd ((declaresUtf16_iff declared).mpr wide) (by decide)
  have noMarks : '%' ∉ text ∧ '+' ∉ text ∧ text.head? ≠ some '\uFEFF' := by decide
  obtain ⟨same, lost⟩ := decodeBody_of_raw form narrow noMarks.1 noMarks.2.1 noMarks.2.2
  have letter : 'H' ∈ text ∧ 'H' ≠ '&' := by decide
  have mark : '&' ∈ text := by decide
  constructor
  · rw [same]
    rintro (only | ⟨none, -⟩)
    · exact letter.2 (only 'H' letter.1)
    · exact none mark
  · rw [lost ⟨'H', letter⟩]
    decide

end

end HopProbe.Service
