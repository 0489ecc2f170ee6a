import HopProbe.Proofs.Text.Cut
import HopProbe.Run.Interpreter
import Mathlib.Data.List.Forall2

/-!
# What a run consists of

A run is a list of steps, a reason to stop and the world that is left. The
reason to stop comes from the lines alone; no part of a run depends on its
clock. The transcript is the steps, each with the time at which it ended.
-/

set_option autoImplicit false

namespace HopProbe
open HopProbe.Text

structure Step where
  line : String
  outcome : Outcome
  deriving DecidableEq, Repr

namespace Step

def block (s : Step) (elapsed : Elapsed) : String :=
  Transcript.opening s.line ++ Transcript.closing s.line s.outcome elapsed

def blocks (clock : Clock) (steps : List Step) : List String :=
  steps.mapIdx fun j s => s.block (clock j)

theorem blocks_append (clock : Clock) (steps more : List Step) :
    blocks clock (steps ++ more) =
      blocks clock steps ++ blocks (fun j => clock (j + steps.length)) more := by
  simp [blocks, List.mapIdx_append]

/-- What every block of a line looks like: its two markers and full lines between them. -/
def Frames (line : String) (elapsed : Elapsed) (block : String) : Prop :=
  ∃ output time, block = "-> Start: " ++ line ++ "\n" ++ output ++
      "<- End: " ++ line ++ " " ++ time ++ "ms\n" ∧
    (output = "" ∨ ∃ text, output = text ++ "\n") ∧ time ++ "ms" = Elapsed.text elapsed

theorem frames_block (s : Step) (elapsed : Elapsed) : Frames s.line elapsed (s.block elapsed) := by
  let output := if s.outcome.shown = "" then "" else s.outcome.shown ++ "\n"
  let time := String.ofList (Nat.toDigits 10 (elapsed / 100) ++ '.' :: Span.padded 2 (elapsed % 100))
  have ends : time ++ "ms" = Elapsed.text elapsed := by
    rw [← String.toList_inj]
    simp [time, Elapsed.text]
  refine ⟨output, time, ?_, ?_, ends⟩
  · have newline : time ++ "ms\n" = Elapsed.text elapsed ++ "\n" := by
      rw [← ends, String.append_assoc]
      rfl
    simp only [block, Transcript.opening, Transcript.closing, output, String.append_assoc, newline]
  · by_cases h : s.outcome.shown = ""
    · exact Or.inl (if_pos h)
    · exact Or.inr ⟨s.outcome.shown, if_neg h⟩

theorem head?_block (s : Step) (elapsed : Elapsed) :
    (s.block elapsed).toList.head? = some '-' := by
  simp [block, Transcript.opening]

theorem forall₂_blocks (clock : Clock) (steps : List Step) :
    List.Forall₂ (fun (line, j) block => Frames line (clock j) block)
      (steps.map line).zipIdx (blocks clock steps) := by
  rw [List.forall₂_iff_get]
  refine ⟨by simp [blocks], fun j hj hj' => ?_⟩
  have inside : j < steps.length := by simpa using hj
  have framed := frames_block steps[j] (clock j)
  simpa [blocks] using framed

end Step

namespace Interpreter

variable {σ : Type}

/-- The lines up to the first that forwards. -/
def started (i : Interpreter σ) (lines : List String) : List String :=
  match lines.findIdx? i.forwardsLine with
  | some k => lines.take (k + 1)
  | none => lines

def halting (i : Interpreter σ) (lines : List String) : Halt :=
  match lines.findIdx? i.forwardsLine with
  | some _ => .forwarded
  | none => .exhausted

def steps (i : Interpreter σ) (request : Inbound) : List String → σ → List Step
  | [], _ => []
  | line :: rest, world =>
    let (outcome, next) := i.executeLine line ⟨rest, request⟩ world
    ⟨line, outcome⟩ :: if i.forwardsLine line then [] else i.steps request rest next

def starts (i : Interpreter σ) (request : Inbound) : List String → σ → List σ
  | [], _ => []
  | line :: rest, world =>
    world :: if i.forwardsLine line then []
      else i.starts request rest (i.executeLine line ⟨rest, request⟩ world).2

def left (i : Interpreter σ) (request : Inbound) : List String → σ → σ
  | [], world => world
  | line :: rest, world =>
    let (_, next) := i.executeLine line ⟨rest, request⟩ world
    if i.forwardsLine line then next else i.left request rest next

@[simp] theorem started_nil (i : Interpreter σ) : i.started [] = [] := rfl

theorem started_cons (i : Interpreter σ) (line : String) (rest : List String) :
    i.started (line :: rest) = line :: if i.forwardsLine line then [] else i.started rest := by
  by_cases h : i.forwardsLine line
  · simp [started, List.findIdx?_cons, h]
  · cases hk : rest.findIdx? i.forwardsLine <;> simp [started, List.findIdx?_cons, h, hk]

theorem halting_cons (i : Interpreter σ) (line : String) (rest : List String) :
    i.halting (line :: rest) = if i.forwardsLine line then .forwarded else i.halting rest := by
  by_cases h : i.forwardsLine line
  · simp [halting, List.findIdx?_cons, h]
  · cases hk : rest.findIdx? i.forwardsLine <;> simp [halting, List.findIdx?_cons, h, hk]

theorem started_length_of_some (i : Interpreter σ) {lines : List String} {k : Nat}
    (h : lines.findIdx? i.forwardsLine = some k) : (i.started lines).length = k + 1 := by
  obtain ⟨hk, -⟩ := List.findIdx?_eq_some_iff_getElem.mp h
  simp only [started, h, List.length_take]
  omega

theorem take_length_started (i : Interpreter σ) (lines : List String) :
    lines.take (i.started lines).length = i.started lines := by
  cases hk : lines.findIdx? i.forwardsLine with
  | none => simp [started, hk]
  | some k =>
    rw [started_length_of_some i hk]
    simp [started, hk]

theorem started_congr {τ : Type} {i : Interpreter σ} {other : Interpreter τ} {lines : List String}
    (h : ∀ line ∈ lines, other.forwardsLine line = i.forwardsLine line) :
    other.started lines = i.started lines := by
  induction lines with
  | nil => rfl
  | cons line rest ih =>
    rw [started_cons, started_cons, h line (by simp), ih fun l hm => h l (by simp [hm])]

theorem halting_congr {τ : Type} {i : Interpreter σ} {other : Interpreter τ} {lines : List String}
    (h : ∀ line ∈ lines, other.forwardsLine line = i.forwardsLine line) :
    other.halting lines = i.halting lines := by
  induction lines with
  | nil => rfl
  | cons line rest ih =>
    rw [halting_cons, halting_cons, h line (by simp), ih fun l hm => h l (by simp [hm])]

theorem started_append_of_none (i : Interpreter σ) {lines : List String}
    (h : ∀ line ∈ lines, i.forwardsLine line = false) (more : List String) :
    i.started (lines ++ more) = lines ++ i.started more := by
  induction lines with
  | nil => rfl
  | cons line rest ih =>
    have hl := h line (by simp)
    rw [List.cons_append, started_cons, ih fun l hm => h l (by simp [hm])]
    simp [hl]

theorem started_of_none (i : Interpreter σ) {lines : List String}
    (h : ∀ line ∈ lines, i.forwardsLine line = false) : i.started lines = lines := by
  have all := i.started_append_of_none h []
  rwa [List.append_nil, started_nil, List.append_nil] at all

theorem steps_lines (i : Interpreter σ) (request : Inbound) (lines : List String) (world : σ) :
    (i.steps request lines world).map Step.line = i.started lines := by
  induction lines generalizing world with
  | nil => rfl
  | cons line rest ih =>
    rw [started_cons]
    by_cases h : i.forwardsLine line <;> simp [steps, h, ih]

theorem steps_length (i : Interpreter σ) (request : Inbound) (lines : List String) (world : σ) :
    (i.steps request lines world).length = (i.started lines).length := by
  rw [← i.steps_lines request lines world, List.length_map]

/-- The worlds in which the steps of a run began, and the one that it leaves. -/
def worlds (i : Interpreter σ) (request : Inbound) (lines : List String) (world : σ) : List σ :=
  i.starts request lines world ++ [i.left request lines world]

theorem worlds_cons (i : Interpreter σ) (request : Inbound) (line : String) (rest : List String)
    (world : σ) :
    i.worlds request (line :: rest) world =
      world :: if i.forwardsLine line then [(i.executeLine line ⟨rest, request⟩ world).2]
        else i.worlds request rest (i.executeLine line ⟨rest, request⟩ world).2 := by
  rw [worlds, starts, left]
  split <;> rfl

theorem worlds_eq_cons (i : Interpreter σ) (request : Inbound) (lines : List String) (world : σ) :
    ∃ more, i.worlds request lines world = world :: more := by
  cases lines with
  | nil => exact ⟨[], rfl⟩
  | cons line rest => exact ⟨_, i.worlds_cons request line rest world⟩

/-- A step leads from the world in which it began to the next one. -/
theorem step_worlds (i : Interpreter σ) {request : Inbound} {lines : List String} {world : σ}
    {j : Nat} {s : Step} (h : (i.steps request lines world)[j]? = some s) :
    ∃ before after, (i.worlds request lines world)[j]? = some before ∧
      (i.worlds request lines world)[j + 1]? = some after ∧ lines[j]? = some s.line ∧
      i.executeLine s.line ⟨lines.drop (j + 1), request⟩ before = (s.outcome, after) := by
  induction lines generalizing world j with
  | nil => cases h
  | cons line rest ih =>
    rw [steps] at h
    rw [worlds_cons]
    cases j with
    | zero =>
      cases h
      refine ⟨world, (i.executeLine line ⟨rest, request⟩ world).2, rfl, ?_, rfl, rfl⟩
      split
      · rfl
      · obtain ⟨more, same⟩ := i.worlds_eq_cons request rest
          (i.executeLine line ⟨rest, request⟩ world).2
        rw [same]
        rfl
    | succ j =>
      rw [List.getElem?_cons_succ] at h
      split at h
      · cases h
      · next quiet =>
        rw [if_neg quiet]
        exact ih h

theorem worlds_length (i : Interpreter σ) (request : Inbound) (lines : List String) (world : σ) :
    (i.worlds request lines world).length = (i.steps request lines world).length + 1 := by
  induction lines generalizing world with
  | nil => rfl
  | cons line rest ih =>
    rw [worlds_cons, steps]
    by_cases h : i.forwardsLine line <;> simp [h, ih]

theorem step_eq (i : Interpreter σ) {request : Inbound} {lines : List String} {world : σ} {j : Nat}
    {s : Step} (h : (i.steps request lines world)[j]? = some s) :
    ∃ before, (i.starts request lines world)[j]? = some before ∧ lines[j]? = some s.line ∧
      s.outcome = (i.executeLine s.line ⟨lines.drop (j + 1), request⟩ before).1 := by
  obtain ⟨before, after, began, -, there, ran⟩ := i.step_worlds h
  have inside : j < (i.starts request lines world).length := by
    have length := i.worlds_length request lines world
    obtain ⟨within, -⟩ := List.getElem?_eq_some_iff.mp h
    rw [worlds, List.length_append, List.length_singleton] at length
    omega
  refine ⟨before, ?_, there, (congrArg Prod.fst ran).symm⟩
  rwa [worlds, List.getElem?_append_left inside] at began

/-- What holds at the start of a run and is kept by its steps holds in all its worlds. -/
theorem forall_worlds (i : Interpreter σ) {request : Inbound} {lines : List String} {world : σ}
    {P : Nat → σ → Prop} (first : P 0 world)
    (step : ∀ j s u v, (i.steps request lines world)[j]? = some s →
      (i.worlds request lines world)[j]? = some u → (i.worlds request lines world)[j + 1]? = some v →
      i.executeLine s.line ⟨lines.drop (j + 1), request⟩ u = (s.outcome, v) → P j u → P (j + 1) v)
    (j : Nat) {u : σ} (h : (i.worlds request lines world)[j]? = some u) : P j u := by
  induction j generalizing u with
  | zero =>
    obtain ⟨more, same⟩ := i.worlds_eq_cons request lines world
    rw [same] at h
    exact Option.some.inj h ▸ first
  | succ j ih =>
    obtain ⟨inside, -⟩ := List.getElem?_eq_some_iff.mp h
    rw [worlds_length] at inside
    have there := List.getElem?_eq_getElem (l := i.steps request lines world) (i := j) (by omega)
    obtain ⟨before, after, began, ended, -, ran⟩ := i.step_worlds there
    obtain rfl : u = after := Option.some.inj (h.symm.trans ended)
    exact step j _ before u there began h ran (ih began)

theorem resume_eq (i : Interpreter σ) (clock : Clock) (request : Inbound) (lines : List String)
    (transcript : Transcript) (world : σ) :
    i.resume clock request lines transcript world =
      ⟨⟨transcript.blocks ++
          Step.blocks (fun j => clock (transcript.steps + j)) (i.steps request lines world)⟩,
        i.halting lines, i.left request lines world⟩ := by
  -- The clock is read at the number of blocks so far, so the transcript is any.
  induction lines generalizing transcript world with
  | nil => simp [resume, steps, left, halting, Step.blocks]
  | cons line rest ih =>
    rw [resume]
    by_cases h : i.forwardsLine line
    · simp [h, steps, left, halting_cons, Step.blocks, Step.block, Transcript.finish_start]
    · simp only [h, Bool.false_eq_true, if_false, ih]
      simp [h, steps, left, halting_cons, Step.blocks, Step.block, Transcript.finish_start,
        Transcript.steps, List.mapIdx_cons, Nat.add_comm, Nat.add_left_comm]

theorem runLines_eq (i : Interpreter σ) (clock : Clock) (request : Inbound)
    (lines : List String) (world : σ) :
    i.runLines clock request lines world =
      ⟨⟨Step.blocks clock (i.steps request lines world)⟩,
        i.halting lines, i.left request lines world⟩ := by
  rw [runLines, resume_eq]
  simp [Transcript.empty, Transcript.steps]

theorem runLines_executed (i : Interpreter σ) (clock : Clock) (request : Inbound)
    (lines : List String) (world : σ) :
    (i.runLines clock request lines world).executed = (i.started lines).length := by
  simp [runLines_eq, Report.executed, Transcript.steps, Step.blocks, steps_length]

theorem runLines_block (i : Interpreter σ) (clock : Clock) (request : Inbound)
    (lines : List String) (world : σ) {j : Nat} {s : Step}
    (h : (i.steps request lines world)[j]? = some s) :
    (i.runLines clock request lines world).transcript.blocks[j]? = some (s.block (clock j)) := by
  simp only [runLines_eq, Step.blocks, List.getElem?_mapIdx, h, Option.map_some]

def answer (i : Interpreter σ) (clock : Clock) (request : Inbound) (lines : List String)
    (world : σ) : String :=
  if lines = [] then emptyResponse else (i.runLines clock request lines world).transcript.render

theorem run_eq (i : Interpreter σ) (clock : Clock) (request : Inbound) (body : String)
    (world : σ) : i.run clock request body world =
      (i.answer clock request (Script.lines body) world,
        (i.runLines clock request (Script.lines body) world).world) := by
  unfold run answer
  cases Script.lines body with
  | nil => rfl
  | cons line rest => simp

theorem head?_answer (i : Interpreter σ) (clock : Clock) (request : Inbound)
    (lines : List String) (world : σ) :
    (i.answer clock request lines world).toList.head? = some '-' := by
  unfold answer
  cases lines with
  | nil =>
    rw [if_pos rfl]
    rfl
  | cons line rest =>
    rw [if_neg (by simp), runLines_eq, Transcript.render, String.toList_intercalate,
      ← joined_eq_intercalate, steps, Step.blocks, List.mapIdx_cons, List.map_cons]
    exact head?_joined (Step.head?_block _ _) _

end Interpreter
end HopProbe
