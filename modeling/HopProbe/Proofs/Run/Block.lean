import HopProbe.Proofs.Run.Steps
import HopProbe.Proofs.Script.Lines
import HopProbe.Proofs.Text.Cut
import HopProbe.Proofs.Text.Printable

/-!
# The rows of a block

A block of a line is a start marker, what the step printed and an end marker,
each in rows of its own. Rows that a step puts out empty at the end are not
printed, and a failure is printed as it is.
-/

set_option autoImplicit false

namespace HopProbe
open HopProbe.Text

namespace Transcript

def startMark : String := "-> Start: "

def endMark : String := "<- End: "

end Transcript

def Unbroken (s : String) : Prop := ∀ c ∈ s.toList, isLineBreak c = false

theorem unbroken_of_printable {s : String} (h : Printable s.toList) : Unbroken s := by
  intro c hc
  have noReturn : c ≠ '\r' := fun e => h.not_mem (by decide) (e ▸ hc)
  have noBreak : c ≠ '\n' := fun e => h.not_mem (by decide) (e ▸ hc)
  simp [isLineBreak, noReturn, noBreak]

namespace Elapsed

theorem newline_not_mem (t : Elapsed) : '\n' ∉ (text t).toList := by
  have digits (n : Nat) : '\n' ∉ Nat.toDigits 10 n := by
    intro hm
    have digit := Nat.isDigit_of_mem_toDigits (by decide) (by decide) hm
    contradiction
  simp [text, Span.padded, digits]

end Elapsed

namespace Step
open Transcript

def printed (s : Step) : List (List Char) :=
  if s.outcome.shown = "" then [] else pieces '\n' s.outcome.shown.toList

def rows (s : Step) (elapsed : Elapsed) : List (List Char) :=
  (startMark.toList ++ s.line.toList) :: s.printed ++
    [endMark.toList ++ s.line.toList ++ ' ' :: (Elapsed.text elapsed).toList]

theorem joined_printed (s : Step) :
    String.ofList (joined ['\n'] s.printed) = s.outcome.shown := by
  unfold printed
  split
  · next nothing => simp [joined, nothing]
  · rw [joined_pieces, String.ofList_toList]

theorem pieces_printed (s : Step) (rest : List Char) :
    pieces '\n' ((if s.outcome.shown = "" then "" else s.outcome.shown ++ "\n").toList ++ rest) =
      s.printed ++ pieces '\n' rest := by
  unfold printed
  split
  · simp
  · rw [String.toList_append, List.append_assoc]
    exact pieces_concat '\n' _ rest

theorem pieces_block {s : Step} (h : '\n' ∉ s.line.toList) (elapsed : Elapsed) (rest : List Char) :
    pieces '\n' ((s.block elapsed).toList ++ rest) = s.rows elapsed ++ pieces '\n' rest := by
  have first : '\n' ∉ startMark.toList ++ s.line.toList := by simp [startMark, h]
  have last : '\n' ∉ endMark.toList ++ s.line.toList ++ ' ' :: (Elapsed.text elapsed).toList := by
    simp [endMark, h, Elapsed.newline_not_mem]
  let output := (if s.outcome.shown = "" then "" else s.outcome.shown ++ "\n").toList
  have block : (s.block elapsed).toList ++ rest = (startMark.toList ++ s.line.toList) ++
      '\n' :: (output ++ ((endMark.toList ++ s.line.toList ++ ' ' :: (Elapsed.text elapsed).toList) ++
        '\n' :: rest)) := by
    have opens : opening s.line = startMark ++ s.line ++ "\n" := rfl
    have closes : closing s.line s.outcome elapsed =
        (if s.outcome.shown = "" then "" else s.outcome.shown ++ "\n") ++ endMark ++ s.line ++ " " ++
          Elapsed.text elapsed ++ "\n" := by
      simp only [closing, endMark, String.append_assoc]
    simp [Step.block, opens, closes, output]
  rw [block, pieces_append first, pieces_printed, pieces_append last, rows]
  simp

/-- The block of a success that prints something: between the markers stands its text, without the
breaks at its end. -/
theorem block_of_success (line : String) {text : String} (elapsed : Elapsed)
    (h : ∃ c ∈ text.toList, isLineBreak c = false) :
    ∃ output breaks, text = output ++ breaks ∧ output ≠ "" ∧
      (∀ c ∈ output.toList.getLast?, c ≠ '\r' ∧ c ≠ '\n') ∧
      (∀ c ∈ breaks.toList, c = '\r' ∨ c = '\n') ∧
      block ⟨line, .success text⟩ elapsed = "-> Start: " ++ line ++ "\n" ++ output ++ "\n" ++
        "<- End: " ++ line ++ " " ++ Elapsed.text elapsed ++ "\n" := by
  obtain ⟨taken, whole, kind⟩ := exists_dropEndWhile_append isLineBreak text.toList
  have filled : dropEndWhile isLineBreak text.toList ≠ [] := by
    intro none
    rw [none, List.nil_append] at whole
    obtain ⟨c, there, plain⟩ := h
    exact Bool.false_ne_true (plain.symm.trans (kind c (whole ▸ there)))
  have shown : (Outcome.success text).shown ≠ "" := by simpa [Outcome.shown] using filled
  refine ⟨(Outcome.success text).shown, String.ofList taken, ?_, shown, ?_, ?_, ?_⟩
  · rw [Outcome.shown, ← String.ofList_append, ← whole, String.ofList_toList]
  · intro c hc
    rw [Outcome.shown, String.toList_ofList] at hc
    simpa [isLineBreak] using getLast?_dropEndWhile isLineBreak text.toList c hc
  · intro c hc
    rw [String.toList_ofList] at hc
    simpa [isLineBreak] using kind c hc
  · simp only [block, opening, closing, if_neg shown, String.append_assoc]

/-- Of lines without breaks in them all are printed but the empty ones at the end. -/
theorem printed_of_lines {s : Step} {lines : List String}
    (success : s.outcome = .success (String.intercalate "\n" lines))
    (unbroken : ∀ line ∈ lines, Unbroken line) :
    s.printed = dropEndWhile List.isEmpty (lines.map String.toList) := by
  have inside : ∀ line ∈ lines.map String.toList, ∀ c ∈ line, isLineBreak c = false := by
    intro line hl c hc
    obtain ⟨text, there, rfl⟩ := List.mem_map.mp hl
    exact unbroken text there c hc
  have shown : s.outcome.shown =
      String.ofList (joined ['\n'] (dropEndWhile List.isEmpty (lines.map String.toList))) := by
    rw [success, Outcome.shown, ← dropEndWhile_joined (by decide) inside,
      String.toList_intercalate, ← joined_eq_intercalate]
    rfl
  have kept : ∀ line ∈ dropEndWhile List.isEmpty (lines.map String.toList), '\n' ∉ line := by
    intro line hl hc
    have marks := inside line ((dropEndWhile_sublist _ _).mem hl) '\n' hc
    cases marks
  unfold printed
  rw [shown]
  by_cases none : dropEndWhile List.isEmpty (lines.map String.toList) = []
  · rw [none]
    rfl
  · have some : joined ['\n'] (dropEndWhile List.isEmpty (lines.map String.toList)) ≠ [] :=
      fun h => none (joined_dropEndWhile_eq_nil h)
    rw [if_neg (by simpa using some), String.toList_ofList, pieces_joined none kept]

end Step

end HopProbe
