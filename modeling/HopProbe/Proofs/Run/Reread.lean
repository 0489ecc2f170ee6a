import HopProbe.Proofs.Run.Block

/-!
# Reading a transcript back

A transcript tells how many steps were started, the line of each and what each
printed, at whatever times they ended. It is read from its markers, so the one
text that cannot be told from a marker is an output line that begins like an
end marker.
-/

set_option autoImplicit false

namespace HopProbe
open HopProbe.Text

namespace Transcript

/-- What a block tells, its time apart. -/
structure Entry where
  line : String
  shown : String
  deriving DecidableEq, Repr

/-- Reads the rows of a transcript. Within a block it has the line of the block
and the rows printed so far. -/
def readRows : Option (String × List (List Char)) → List (List Char) → List Entry
  | _, [] => []
  | none, row :: rows =>
    match stripStart startMark.toList row with
    | some line => readRows (some (String.ofList line, [])) rows
    | none => readRows none rows
  | some (line, printed), row :: rows =>
    if endMark.toList.isPrefixOf row then
      ⟨line, String.ofList (joined ['\n'] printed)⟩ :: readRows none rows
    else readRows (some (line, printed ++ [row])) rows

def entries (text : String) : List Entry := readRows none (pieces '\n' text.toList)

def record (t : Transcript) (s : Step × Elapsed) : Transcript :=
  (t.start s.1.line).finish s.1.line s.1.outcome s.2

def recorded (steps : List (Step × Elapsed)) : Transcript := steps.foldl record empty

theorem record_eq (t : Transcript) (s : Step × Elapsed) :
    t.record s = ⟨t.blocks ++ [s.1.block s.2]⟩ :=
  finish_start t s.1.line s.1.line s.1.outcome s.2

theorem recorded_eq (steps : List (Step × Elapsed)) :
    recorded steps = ⟨steps.map fun s => s.1.block s.2⟩ := by
  have onto (t : Transcript) :
      steps.foldl record t = ⟨t.blocks ++ steps.map fun s => s.1.block s.2⟩ := by
    induction steps generalizing t with
    | nil => simp
    | cons s steps ih =>
      rw [List.foldl_cons, ih, record_eq, List.append_assoc]
      rfl
  exact onto empty

theorem readRows_printed {rows : List (List Char)} (h : ∀ row ∈ rows, ¬ endMark.toList <+: row)
    (line : String) (before rest : List (List Char)) :
    readRows (some (line, before)) (rows ++ rest) =
      readRows (some (line, before ++ rows)) rest := by
  induction rows generalizing before with
  | nil => simp
  | cons row rows ih =>
    have inside : ¬ endMark.toList.isPrefixOf row = true := by
      rw [List.isPrefixOf_iff_prefix]
      exact h row (by simp)
    rw [List.cons_append, readRows, if_neg inside, ih fun r hr => h r (by simp [hr])]
    simp

end Transcript

namespace Step
open Transcript

/-- The step can be told from its block. -/
def Legible (s : Step) : Prop :=
  '\n' ∉ s.line.toList ∧ ∀ row ∈ pieces '\n' s.outcome.shown.toList, ¬ endMark.toList <+: row

instance (s : Step) : Decidable s.Legible := inferInstanceAs (Decidable (_ ∧ _))

/-- One block is read as one entry, and what follows as if it stood alone. -/
theorem readRows_block {s : Step} (h : s.Legible) (elapsed : Elapsed) (rest : List (List Char)) :
    readRows none (s.rows elapsed ++ rest) = ⟨s.line, s.outcome.shown⟩ :: readRows none rest := by
  have inside : ∀ row ∈ s.printed, ¬ endMark.toList <+: row := by
    unfold printed
    split
    · simp
    · exact h.2
  have ends : endMark.toList.isPrefixOf
      (endMark.toList ++ s.line.toList ++ ' ' :: (Elapsed.text elapsed).toList) = true := by
    rw [List.isPrefixOf_iff_prefix, List.append_assoc]
    exact List.prefix_append _ _
  rw [rows, List.append_assoc, List.cons_append, readRows, stripStart_append]
  dsimp only
  rw [readRows_printed inside, List.singleton_append, readRows, if_pos ends, List.nil_append,
    joined_printed, String.ofList_toList]

end Step

namespace Transcript

/-- The lines and outputs of the steps are read back from the transcript,
whatever the times at which they ended. -/
theorem entries_recorded (steps : List (Step × Elapsed))
    (h : ∀ s ∈ steps, s.1.Legible) :
    entries (recorded steps).render = steps.map fun s => ⟨s.1.line, s.1.outcome.shown⟩ := by
  rw [entries, render, recorded_eq, String.toList_intercalate, ← joined_eq_intercalate]
  induction steps with
  | nil => rfl
  | cons s steps ih =>
    have legible : s.1.Legible := h s (by simp)
    have others := ih fun s hs => h s (by simp [hs])
    cases steps with
    | nil =>
      have only := Step.pieces_block legible.1 s.2 []
      rw [List.append_nil] at only
      simp only [List.map_cons, List.map_nil, joined, only, Step.readRows_block legible]
      rfl
    | cons next steps =>
      -- The row between two blocks is blank, and outside a block it is passed over.
      simp only [List.map_cons, joined, List.append_assoc] at others ⊢
      rw [Step.pieces_block legible.1, Step.readRows_block legible, ← others]
      rfl

theorem entries_recorded_of_look_alikes :
    entries (recorded
      [(⟨"HTTP GET http://peer", .success "\n\n-> Start: NOPE\r\n"⟩, 1), (⟨"NOPE", .success "\n"⟩, 20),
        (⟨"TCP db 1", .failure "refused\n"⟩, 12345)]).render =
      [⟨"HTTP GET http://peer", "\n\n-> Start: NOPE"⟩, ⟨"NOPE", ""⟩, ⟨"TCP db 1", "ERROR: refused\n"⟩] :=
  entries_recorded _ (by decide)

end Transcript

namespace Interpreter

end Interpreter
end HopProbe
