import HopProbe.Proofs.Text.Edges
import HopProbe.Proofs.Text.Utf16
import HopProbe.Service.Body

/-!
# What a content type declares

A content type is a media type and parameters, with semicolons between them,
in quotes or not. Blanks count nowhere at the ends of a part, quotes not at
the ends of a charset, and the case of letters not at all.
-/

set_option autoImplicit false

namespace HopProbe.Service
open HopProbe.Text

def Parts (contentType : String) (media : List Char) (parameters : List (List Char)) : Prop :=
  contentType.toList = joined [';'] (media :: parameters) ∧ ∀ part ∈ media :: parameters, ';' ∉ part

def TypedForm (contentType : String) : Prop :=
  ∃ media parameters type, Parts contentType media parameters ∧ Around isBlank type media ∧
    lower (String.ofList type) = "application/x-www-form-urlencoded"

/-- A parameter that names UTF-16, with a mark or with the low byte first. -/
def NamesUtf16 (parameter : List Char) : Prop :=
  ∃ left right name quoted charset, parameter = left ++ '=' :: right ∧ Around isBlank name left ∧
    Around isBlank quoted right ∧ Around isQuote charset quoted ∧
    lower (String.ofList name) = "charset" ∧
    (lower (String.ofList charset) = "utf-16" ∨ lower (String.ofList charset) = "utf-16le")

def DeclaresUtf16 (contentType : String) : Prop :=
  ∃ media parameters parameter, Parts contentType media parameters ∧ parameter ∈ parameters ∧
    NamesUtf16 parameter

theorem parts_iff {contentType : String} {media : List Char} {parameters : List (List Char)} :
    Parts contentType media parameters ↔ pieces ';' contentType.toList = media :: parameters := by
  constructor
  · rintro ⟨whole, apart⟩
    rw [whole, pieces_joined (by simp) apart]
  · intro h
    constructor
    · rw [← h, joined_pieces]
    · rw [← h]
      exact not_mem_pieces _ _

theorem exists_parts (contentType : String) :
    ∃ media parameters, Parts contentType media parameters := by
  cases h : pieces ';' contentType.toList with
  | nil => exact absurd h (pieces_ne_nil _ _)
  | cons media parameters => exact ⟨media, parameters, parts_iff.mpr h⟩

theorem forall_of_lower {s : List Char} {name : String} (h : lower (String.ofList s) = name)
    {p : Char → Bool} (hp : ∀ c, p c = true → p c.toLower = true)
    (none : name.toList.all (! p ·) = true) : ∀ c ∈ s, p c = false := by
  intro c hc
  have small : c.toLower ∈ name.toList := by
    rw [← h, lower, String.toList_ofList, String.toList_ofList]
    exact List.mem_map_of_mem hc
  cases hpc : p c with
  | false => rfl
  | true =>
    have other : p c.toLower = false := by simpa using List.all_eq_true.mp none _ small
    exact absurd (hp c hpc) (by simp [other])

theorem toLower_blank {c : Char} (h : isBlank c = true) : isBlank c.toLower = true := by
  have same : c.toLower = c := by
    refine dif_neg ?_
    rintro ⟨low, high⟩
    have low : 65 ≤ c.toNat := low
    have high : c.toNat ≤ 90 := high
    simp only [isBlank, Bool.or_eq_true, Bool.and_eq_true, beq_iff_eq, decide_eq_true_eq] at h
    omega
  rw [same, h]

theorem toLower_quote {c : Char} (h : isQuote c = true) : isQuote c.toLower = true := by
  obtain rfl : c = '"' := by simpa [isQuote] using h
  rfl

theorem toLower_equals {c : Char} (h : (c == '=') = true) : (c.toLower == '=') = true := by
  obtain rfl : c = '=' := by simpa using h
  rfl

theorem namesUtf16_of_parameter {parameter : List Char} (h : parameterNamesUtf16 parameter = true) :
    NamesUtf16 parameter := by
  unfold parameterNamesUtf16 at h
  split at h
  · contradiction
  · rename_i name value cut
    obtain ⟨whole, -⟩ := cutFirst_eq_some cut
    simp only [Bool.and_eq_true, Bool.or_eq_true, beq_iff_eq] at h
    obtain ⟨named, charset⟩ := h
    have small : lower "charset" = "charset" := by decide
    refine ⟨name, value, trimmed name, trimmed value, _, whole, around_strip _ _, around_strip _ _,
      around_strip isQuote _, ?_, charset⟩
    rw [← small]
    simpa [sameLetters] using named

theorem parameter_of_namesUtf16 {parameter : List Char} (h : NamesUtf16 parameter) :
    parameterNamesUtf16 parameter = true := by
  obtain ⟨left, right, name, quoted, charset, rfl, aroundName, aroundQuoted, aroundCharset, named,
    known⟩ := h
  have nameBlank : ∀ c ∈ name, isBlank c = false :=
    forall_of_lower named (fun _ => toLower_blank) (by decide)
  have nameEquals : ∀ c ∈ name, (c == '=') = false :=
    forall_of_lower named (fun _ => toLower_equals) (by decide)
  have charsetBlank : ∀ c ∈ charset, isBlank c = false := by
    rcases known with known | known
    · exact forall_of_lower known (fun _ => toLower_blank) (by decide)
    · exact forall_of_lower known (fun _ => toLower_blank) (by decide)
  have charsetQuote : ∀ c ∈ charset, isQuote c = false := by
    rcases known with known | known
    · exact forall_of_lower known (fun _ => toLower_quote) (by decide)
    · exact forall_of_lower known (fun _ => toLower_quote) (by decide)
  have quotedBlank : ∀ c ∈ quoted, isBlank c = false := by
    refine aroundCharset.forall (fun c hc => ?_) charsetBlank
    obtain rfl : c = '"' := by simpa [isQuote] using hc
    rfl
  have apart : '=' ∉ left := by
    intro hm
    have none : ∀ c ∈ left, (c == '=') = false := by
      refine aroundName.forall (fun c hc => ?_) nameEquals
      rw [beq_eq_false_iff_ne]
      rintro rfl
      contradiction
    exact absurd (none _ hm) (by decide)
  have cut := cutFirst_append apart right
  have nameFound : trimmed left = name := strip_around aroundName (edged_of_forall nameBlank)
  have quotedFound : trimmed right = quoted := strip_around aroundQuoted (edged_of_forall quotedBlank)
  have charsetFound : dropEndWhile isQuote (quoted.dropWhile isQuote) = charset :=
    strip_around aroundCharset (edged_of_forall charsetQuote)
  have small : lower "charset" = "charset" := by decide
  simp only [parameterNamesUtf16, cut, nameFound, quotedFound, charsetFound, sameLetters, named,
    small, beq_self_eq_true, Bool.true_and, Bool.or_eq_true, beq_iff_eq]
  exact known

theorem declaresUtf16_iff (contentType : String) :
    declaresUtf16 contentType = true ↔ DeclaresUtf16 contentType := by
  unfold declaresUtf16
  rw [List.any_eq_true]
  constructor
  · rintro ⟨parameter, hp, names⟩
    obtain ⟨media, parameters, parts⟩ := exists_parts contentType
    rw [parts_iff.mp parts] at hp
    exact ⟨media, parameters, parameter, parts, hp, namesUtf16_of_parameter names⟩
  · rintro ⟨media, parameters, parameter, parts, hp, names⟩
    refine ⟨parameter, ?_, parameter_of_namesUtf16 names⟩
    rw [parts_iff.mp parts]
    exact hp

theorem mediaType_of_parts {contentType : String} {media : List Char} {parameters : List (List Char)}
    (h : Parts contentType media parameters) :
    mediaType contentType = lower (String.ofList (trimmed media)) := by
  obtain ⟨whole, apart⟩ := h
  have alone : ';' ∉ media := apart media (by simp)
  cases parameters with
  | nil => simp [mediaType, whole, joined, cutFirst_of_not_mem alone]
  | cons parameter more =>
    have cut := cutFirst_append alone (joined [';'] (parameter :: more))
    simp only [mediaType, whole, joined, List.append_assoc, List.singleton_append, cut,
      Option.map_some, Option.getD_some]

theorem isForm_iff (contentType : String) : isForm contentType = true ↔ TypedForm contentType := by
  unfold isForm
  rw [beq_iff_eq]
  constructor
  · intro h
    obtain ⟨media, parameters, parts⟩ := exists_parts contentType
    rw [mediaType_of_parts parts] at h
    exact ⟨media, parameters, trimmed media, parts, around_strip _ _, h⟩
  · rintro ⟨media, parameters, type, parts, around, named⟩
    have blank : ∀ c ∈ type, isBlank c = false :=
      forall_of_lower named (fun _ => toLower_blank) (by decide)
    have found : trimmed media = type := strip_around around (edged_of_forall blank)
    rw [mediaType_of_parts parts, found, named]

/-!
## The characters of a body

What was written in UTF-8 or in UTF-16 is read back, less a byte order mark
at its front. Which of the two a body is read as, only a mark of UTF-16 or the
declared charset decides.
-/

def unmarked : List Char → List Char
  | '\uFEFF' :: rest => rest
  | cs => cs

theorem unmarked_of_head {cs : List Char} (h : cs.head? ≠ some '\uFEFF') : unmarked cs = cs := by
  unfold unmarked
  split
  · simp at h
  · rfl

theorem decodeLossy_withoutMark (cs : List Char) :
    Utf8.decodeLossy (withoutMark (Utf8.encode cs)) = unmarked cs := by
  unfold withoutMark
  split
  · rename_i rest h
    obtain ⟨more, rfl, hm⟩ := Utf8.head_of_encode_mark h
    rw [← hm, Utf8.decodeLossy_encode]
    rfl
  · rename_i none
    have bare : cs.head? ≠ some '\uFEFF' := by
      intro h
      obtain ⟨more, rfl⟩ := List.head?_eq_some_iff.mp h
      exact none (Utf8.encode more) rfl
    rw [Utf8.decodeLossy_encode, unmarked_of_head bare]

theorem characters_narrow {contentType : String} (narrow : declaresUtf16 contentType = false)
    (cs : List Char) : characters contentType (Utf8.encode cs) = unmarked cs := by
  unfold characters
  split
  · rename_i rest h
    have wide : (0xFF : UInt8) ∈ Utf8.encode cs := by simp [h]
    exact absurd wide (Utf8.not_mem_encode cs)
  · rw [narrow, if_neg (by simp), decodeLossy_withoutMark]

theorem characters_marked {contentType : String} (narrow : declaresUtf16 contentType = false)
    (cs : List Char) :
    characters contentType (0xEF :: 0xBB :: 0xBF :: Utf8.encode cs) = cs := by
  have bytes : Utf8.encode ('\uFEFF' :: cs) = 0xEF :: 0xBB :: 0xBF :: Utf8.encode cs := rfl
  rw [← bytes, characters_narrow narrow]
  rfl

theorem characters_wideMarked (contentType : String) (cs : List Char) :
    characters contentType (0xFF :: 0xFE :: Utf16.bytesLE (Utf16.encode cs)) = cs :=
  Utf16.decodeLE_bytesLE cs

/-- Under a declared charset a mark of its own would be taken off. -/
theorem characters_wide {contentType : String} (wide : declaresUtf16 contentType = true)
    {cs : List Char} (bare : cs.head? ≠ some '\uFEFF') :
    characters contentType (Utf16.bytesLE (Utf16.encode cs)) = cs := by
  unfold characters
  split
  · rename_i rest h
    exact absurd (Utf16.head_of_bytesLE_mark h) bare
  · rw [wide, if_pos rfl, Utf16.decodeLE_bytesLE]

end HopProbe.Service
