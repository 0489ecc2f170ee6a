import HopProbe.Proofs.Script.Literal
import HopProbe.Proofs.Service.Declared
import HopProbe.Proofs.Url.Form

/-!
# One script in many bodies

The text of a script can be sent in UTF-8 or in UTF-16, as a literal of JSON
or as the name in a form. However it is sent, the same lines are found in it,
so long as it does not itself begin with a byte order mark or read as a
literal.
-/

set_option autoImplicit false

namespace HopProbe.Service
open HopProbe.Text

def Narrow (contentType : Option String) : Prop :=
  ∀ declared ∈ contentType, ¬ TypedForm declared ∧ ¬ DeclaresUtf16 declared

/-- The content types and the bodies by which a text can be sent. -/
inductive Sends (text : List Char) : Option String → List UInt8 → Prop
  | plain {contentType : Option String} (narrow : Narrow contentType) :
    Sends text contentType (Utf8.encode text)
  | marked {contentType : Option String} (narrow : Narrow contentType) :
    Sends text contentType (0xEF :: 0xBB :: 0xBF :: Utf8.encode text)
  | literal {contentType : Option String} (narrow : Narrow contentType) {literal : List Char}
    (denotes : Script.JsonString.Denotes literal text) :
    Sends text contentType (Utf8.encode literal)
  | wideMarked {contentType : Option String}
    (noForm : ∀ declared ∈ contentType, ¬ TypedForm declared) :
    Sends text contentType (0xFF :: 0xFE :: Utf16.bytesLE (Utf16.encode text))
  | wide {declared : String} (noForm : ¬ TypedForm declared) (wide : DeclaresUtf16 declared) :
    Sends text (some declared) (Utf16.bytesLE (Utf16.encode text))
  | form {declared : String} (form : TypedForm declared) (narrow : ¬ DeclaresUtf16 declared)
    {name ending : List Char} (written : Url.Form.Written text name)
    (valueless : ending = [] ∨ ending = ['=']) :
    Sends text (some declared) (Utf8.encode (name ++ ending))

theorem isForm_eq_false {declared : String} (h : ¬ TypedForm declared) : isForm declared = false :=
  Bool.eq_false_iff.mpr fun form => h ((isForm_iff declared).mp form)

theorem declaresUtf16_eq_false {declared : String} (h : ¬ DeclaresUtf16 declared) :
    declaresUtf16 declared = false :=
  Bool.eq_false_iff.mpr fun wide => h ((declaresUtf16_iff declared).mp wide)

theorem Narrow.declared {contentType : Option String} (h : Narrow contentType) :
    isForm (contentType.getD "") = false ∧ declaresUtf16 (contentType.getD "") = false := by
  cases contentType with
  | none => decide
  | some declared =>
    obtain ⟨noForm, narrow⟩ := h declared rfl
    exact ⟨isForm_eq_false noForm, declaresUtf16_eq_false narrow⟩

theorem isForm_getD_eq_false {contentType : Option String}
    (h : ∀ declared ∈ contentType, ¬ TypedForm declared) : isForm (contentType.getD "") = false := by
  cases contentType with
  | none => decide
  | some declared => exact isForm_eq_false (h declared rfl)

theorem decodeBody_of_no_form {contentType : Option String}
    (h : isForm (contentType.getD "") = false) (body : List UInt8) :
    decodeBody contentType body = characters (contentType.getD "") body := by
  simp only [decodeBody, h, Bool.false_eq_true, if_false]

theorem decodeBody_of_form {declared : String} (form : TypedForm declared)
    (narrow : ¬ DeclaresUtf16 declared) {text : List Char} (bare : text.head? ≠ some '\uFEFF') :
    decodeBody (some declared) (Utf8.encode text) =
      if Url.Form.pairs (Utf8.encode text) = [] then text
      else flattened (Url.Form.pairs (Utf8.encode text)) := by
  have isForm : isForm declared = true := (isForm_iff declared).mpr form
  have read : characters declared (Utf8.encode text) = text := by
    rw [characters_narrow (declaresUtf16_eq_false narrow), unmarked_of_head bare]
  simp only [decodeBody, Option.getD_some, isForm, if_true, read]
  cases Url.Form.pairs (Utf8.encode text) with
  | nil => rfl
  | cons p ps => simp

theorem decodeBody_of_ways {declared : String} (form : TypedForm declared)
    (narrow : ¬ DeclaresUtf16 declared) {pairs : List (List Char × List Char)}
    {ways : List (List Char)} (written : List.Forall₂ Url.Form.WritesPair pairs ways)
    (bare : (joined ['&'] ways).head? ≠ some '\uFEFF') :
    decodeBody (some declared) (Utf8.encode (joined ['&'] ways)) = flattened pairs := by
  rw [decodeBody_of_form form narrow bare, Url.Form.pairs_written written]
  cases written with
  | nil => rfl
  | cons first more => simp

theorem decodeBody_form {declared : String} (form : TypedForm declared)
    (narrow : ¬ DeclaresUtf16 declared) {text name ending : List Char}
    (bare : (name ++ ending).head? ≠ some '\uFEFF') (written : Url.Form.Written text name)
    (valueless : ending = [] ∨ ending = ['=']) :
    decodeBody (some declared) (Utf8.encode (name ++ ending)) = text := by
  have flat : flattened [(text, [])] = text := by simp [flattened]
  have alone {way : List Char} (h : Url.Form.WritesPair (text, []) way)
      (unmarked : way.head? ≠ some '\uFEFF') :
      decodeBody (some declared) (Utf8.encode way) = text :=
    (decodeBody_of_ways form narrow (.cons h .nil) unmarked).trans flat
  rcases valueless with rfl | rfl
  · rw [List.append_nil] at bare ⊢
    by_cases filled : text = []
    · -- No name at all is no pair, so that the empty body is left as it is.
      subst filled
      cases written
      rw [decodeBody_of_form form narrow bare]
      rfl
    · exact alone (.bare written filled) bare
  · exact alone (.full written .nil) bare

theorem head_of_name {text name ending : List Char} (written : Url.Form.Written text name)
    (valueless : ending = [] ∨ ending = ['=']) (bare : text.head? ≠ some '\uFEFF') :
    (name ++ ending).head? ≠ some '\uFEFF' := by
  intro h
  cases name with
  | nil => rcases valueless with rfl | rfl <;> simp at h
  | cons c rest =>
    rcases Url.Form.head_of_written written c rfl with same | mark
    · obtain rfl : c = '\uFEFF' := by simpa using h
      exact bare same
    · obtain rfl : c = '\uFEFF' := by simpa using h
      exact absurd mark (by decide)

/-- Every body gives the text back, or a literal of it. -/
theorem decodeBody_sends {text : List Char} (bare : text.head? ≠ some '\uFEFF')
    {contentType : Option String} {body : List UInt8} (h : Sends text contentType body) :
    decodeBody contentType body = text ∨
      Script.JsonString.Denotes (decodeBody contentType body) text := by
  cases h with
  | plain narrow =>
    obtain ⟨noForm, narrow⟩ := narrow.declared
    left
    rw [decodeBody_of_no_form noForm, characters_narrow narrow, unmarked_of_head bare]
  | marked narrow =>
    obtain ⟨noForm, narrow⟩ := narrow.declared
    left
    rw [decodeBody_of_no_form noForm, characters_marked narrow]
  | @literal _ narrow literal denotes =>
    obtain ⟨noForm, narrow⟩ := narrow.declared
    have quoted : literal.head? ≠ some '\uFEFF' := by
      obtain ⟨rest, rfl, -⟩ := denotes
      simp
    right
    rwa [decodeBody_of_no_form noForm, characters_narrow narrow, unmarked_of_head quoted]
  | wideMarked noForm =>
    left
    rw [decodeBody_of_no_form (isForm_getD_eq_false noForm), characters_wideMarked]
  | @wide declared noForm wide =>
    have noForm : isForm ((some declared).getD "") = false := isForm_eq_false noForm
    left
    rw [decodeBody_of_no_form noForm]
    exact characters_wide ((declaresUtf16_iff declared).mpr wide) bare
  | @form declared form narrow name ending written valueless =>
    left
    exact decodeBody_form form narrow (head_of_name written valueless bare) written valueless

/-- The lines of a script do not depend on how its text was sent. -/
theorem lines_of_sends {text : List Char} (bare : text.head? ≠ some '\uFEFF')
    (noLiteral : ∀ inner, ¬ Script.JsonString.Denotes (trimmed text) inner)
    {contentType : Option String} {body : List UInt8} (h : Sends text contentType body) :
    Script.splitLines (decodeBody contentType body) = Script.nonEmptyLines text := by
  unfold Script.splitLines
  rcases decodeBody_sends bare h with same | literal
  · rw [same, Script.unwrapped_of_no_literal noLiteral]
  · rw [Script.unwrapped_literal literal]

theorem lines_of_sends_literal_wide_form :
    let text := "INFO \"a=b&c\"\r\n\nTCP 😀 %41+\n".toList
    let literal := "\"\\u0049NFO \\\"a=b\\u0026c\\\"\\r\\n\\nTCP \\uD83d\\ude00 %41+\\n\"".toList
    let found := ["INFO \"a=b&c\"".toList, "TCP 😀 %41+".toList]
    let wide := "text/plain; format=flowed ; CharSet = \"UTF-16le\""
    Script.splitLines (decodeBody none (Utf8.encode literal)) = found ∧
    Script.splitLines (decodeBody (some wide) (Utf16.bytesLE (Utf16.encode text))) = found ∧
    Script.splitLines (decodeBody (some "Application/X-WWW-Form-Urlencoded; charset=utf-8")
      (Utf8.bytes "INFO+%22a%3Db%26c%22%0D%0A%0ATCP+%F0%9F%98%80+%2541%2B%0A=")) = found := by
  intro text literal found wide
  have bare : text.head? ≠ some '\uFEFF' := by decide
  have noLiteral : ∀ inner, ¬ Script.JsonString.Denotes (trimmed text) inner :=
    Script.JsonString.decode_eq_none_iff.mp (by decide)
  have lines : Script.nonEmptyLines text = found := by decide
  have denotes : Script.JsonString.Denotes literal text :=
    Script.JsonString.decode_eq_some_iff.mp (by decide)
  have noForm : ¬ TypedForm wide := fun h => absurd ((isForm_iff wide).mpr h) (by decide)
  have declared : DeclaresUtf16 wide := (declaresUtf16_iff wide).mp (by decide)
  have form : TypedForm "Application/X-WWW-Form-Urlencoded; charset=utf-8" :=
    (isForm_iff _).mp (by decide)
  have narrow : ¬ DeclaresUtf16 "Application/X-WWW-Form-Urlencoded; charset=utf-8" :=
    fun h => absurd ((declaresUtf16_iff _).mpr h) (by decide)
  have name : Utf8.bytes "INFO+%22a%3Db%26c%22%0D%0A%0ATCP+%F0%9F%98%80+%2541%2B%0A=" =
      Utf8.encode (Url.Form.encodeComponent text ++ ['=']) := by decide
  rw [← lines, name]
  refine ⟨lines_of_sends bare noLiteral (.literal (by simp [Narrow]) denotes),
    lines_of_sends bare noLiteral (.wide noForm declared),
    lines_of_sends bare noLiteral (.form form narrow (Url.Form.written_encodeComponent text)
      (.inr rfl))⟩

end HopProbe.Service
