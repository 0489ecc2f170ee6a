import HopProbe.Step.Handler

/-!
# Transcripts

A transcript has one block for each line that was started: a start marker,
the output if there is any, and an end marker with the time since the run
began. Blank lines separate the blocks.
-/

set_option autoImplicit false

namespace HopProbe

structure Transcript where
  blocks : List String
  deriving DecidableEq, Repr

def isLineBreak (c : Char) : Bool := c == '\r' || c == '\n'

def Outcome.shown : Outcome → String
  | .success text => String.ofList (Text.dropEndWhile isLineBreak text.toList)
  | .failure detail => "ERROR: " ++ detail

namespace Transcript

def empty : Transcript := ⟨[]⟩

def opening (line : String) : String := "-> Start: " ++ line ++ "\n"

def closing (line : String) (outcome : Outcome) (elapsed : Elapsed) : String :=
  (if outcome.shown = "" then "" else outcome.shown ++ "\n") ++
    "<- End: " ++ line ++ " " ++ Elapsed.text elapsed ++ "\n"

def start (t : Transcript) (line : String) : Transcript := ⟨t.blocks ++ [opening line]⟩

def extendLast (added : String) : List String → List String
  | [] => []
  | [block] => [block ++ added]
  | block :: blocks => block :: extendLast added blocks

/-- Extends the last block; without a block there is nothing to extend. -/
def finish (t : Transcript) (line : String) (outcome : Outcome) (elapsed : Elapsed) : Transcript :=
  ⟨extendLast (closing line outcome elapsed) t.blocks⟩

def steps (t : Transcript) : Nat := t.blocks.length

def render (t : Transcript) : String := String.intercalate "\n" t.blocks

theorem extendLast_append (added last : String) (blocks : List String) :
    extendLast added (blocks ++ [last]) = blocks ++ [last ++ added] := by
  induction blocks with
  | nil => rfl
  | cons b bs ih =>
    cases bs with
    | nil => rfl
    | cons c cs => simpa [extendLast] using ih

@[simp] theorem steps_start (t : Transcript) (line : String) :
    (t.start line).steps = t.steps + 1 := by
  simp [steps, start]

@[simp] theorem steps_finish (t : Transcript) (line : String) (outcome : Outcome) (e : Elapsed) :
    (t.finish line outcome e).steps = t.steps := by
  have length_extendLast (added : String) (bs : List String) :
      (extendLast added bs).length = bs.length := by
    fun_induction extendLast added bs <;> simp_all
  simp [steps, finish, length_extendLast]

theorem finish_start (t : Transcript) (line line' : String) (outcome : Outcome) (e : Elapsed) :
    (t.start line).finish line' outcome e =
      ⟨t.blocks ++ [opening line ++ closing line' outcome e]⟩ := by
  simp [finish, start, extendLast_append]

end Transcript
end HopProbe
