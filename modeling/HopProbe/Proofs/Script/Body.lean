import HopProbe.Proofs.Script.Literal

/-!
# Bodies and the lines in them

A body is unwrapped just if it is a literal with nothing but white space
around it, and no more than once. The text it then stands for, or else the
body as it is, is cut at its line feeds, and no character of it is lost but
carriage returns and line feeds.
-/

set_option autoImplicit false

namespace HopProbe.Script
open HopProbe.Text

/-- A body that is a literal of a text with white space around it. -/
def Wraps (body text : List Char) : Prop :=
  ∃ literal, Around isBlank literal body ∧ JsonString.Denotes literal text

/-- The lines of a text: what stands between its line feeds, without carriage
returns, where something stands there. -/
structure CutInto (text : List Char) (lines : List (List Char)) : Prop where
  each : ∀ line ∈ lines, IsLine line
  kept : lines.flatten = text.filter (! isLineBreak ·)
  between : ∃ rows ≠ [], joined ['\n'] rows = text.filter (· ≠ '\r') ∧ (∀ row ∈ rows, '\n' ∉ row) ∧
    lines = rows.filter (! ·.isEmpty)

theorem wraps_iff {body text : List Char} :
    Wraps body text ↔ JsonString.Denotes (trimmed body) text := by
  constructor
  · rintro ⟨literal, around, denotes⟩
    rwa [trimmed, strip_around around denotes.edged]
  · exact fun denotes => ⟨trimmed body, around_strip isBlank body, denotes⟩

theorem length_of_denotes {literal text : List Char} (h : JsonString.Denotes literal text) :
    text.length < literal.length := by
  obtain ⟨rest, rfl, written⟩ := h
  have longer := (body_spans (JsonString.body_eq_some_iff.mpr written)).1
  rw [List.length_cons]
  omega

theorem unwrapped_of_wraps {body text : List Char} (h : Wraps body text) :
    unwrapped body = text := by
  rw [unwrapped, JsonString.decode_eq_some_iff.mpr (wraps_iff.mp h), Option.getD_some]

theorem ne_of_wraps {body text : List Char} (h : Wraps body text) : text ≠ body := by
  have shorter := length_of_denotes (wraps_iff.mp h)
  have within := (trimmed_sublist body).length_le
  rintro rfl
  omega

theorem unwrapped_of_not_wraps {body : List Char} (h : ∀ text, ¬ Wraps body text) :
    unwrapped body = body :=
  unwrapped_of_no_literal fun text denotes => h text (wraps_iff.mpr denotes)

theorem cutInto_nonEmptyLines (text : List Char) : CutInto text (nonEmptyLines text) where
  each := fun _ hm => isLine_of_mem hm
  kept := flatten_nonEmptyLines text
  between := ⟨_, pieces_ne_nil _ _, joined_pieces _ _, not_mem_pieces _ _, rfl⟩

theorem cutInto_iff {text : List Char} {lines : List (List Char)} :
    CutInto text lines ↔ nonEmptyLines text = lines := by
  constructor
  · rintro ⟨-, -, rows, some, whole, apart, rfl⟩
    rw [nonEmptyLines, ← whole, pieces_joined some apart]
  · rintro rfl
    exact cutInto_nonEmptyLines text

theorem map_toList_lines (body : String) :
    (lines body).map String.toList = nonEmptyLines (unwrapped body.toList) := by
  simp [lines, splitLines, Function.comp_def]

/-- A body is unwrapped just if it is a literal, to the text of that literal,
and its lines are those of the text that it stands for. -/
theorem lines_of_body (body : String) :
    (∀ text, Wraps body.toList text ↔ unwrapped body.toList = text ∧ text ≠ body.toList) ∧
      ((∀ text, ¬ Wraps body.toList text) → unwrapped body.toList = body.toList) ∧
      ∀ found, CutInto (unwrapped body.toList) found ↔ (lines body).map String.toList = found := by
  refine ⟨fun text => ⟨fun h => ⟨unwrapped_of_wraps h, ne_of_wraps h⟩, ?_⟩,
    unwrapped_of_not_wraps, fun found => ?_⟩
  · rintro ⟨rfl, changed⟩
    by_cases wrapped : ∃ text, Wraps body.toList text
    · obtain ⟨text, h⟩ := wrapped
      rwa [unwrapped_of_wraps h]
    · exact absurd (unwrapped_of_not_wraps fun text h => wrapped ⟨text, h⟩) changed
  · rw [cutInto_iff, map_toList_lines]

example : lines "\n \"\\\"INFO\\\\nTCP\\\"\\n\" " = ["\"INFO\\nTCP\""] := by decide

end HopProbe.Script
