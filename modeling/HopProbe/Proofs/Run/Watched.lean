import HopProbe.Proofs.Run.Steps

/-!
# Which lines a run starts

A watched registry notes each execution of a handler and is otherwise the
same. Its notes show that a run starts the lines up to the first that
forwards, each once and in order, whatever the handlers do, and that each
handler is given the lines behind its own.
-/

set_option autoImplicit false

namespace HopProbe

structure Call where
  verb : Verb
  args : List String
  context : Context
  deriving DecidableEq, Repr

variable {σ : Type}

def Handler.watched (verb : Verb) (h : Handler σ) : Handler (σ × List Call) where
  verb := h.verb
  usage := h.usage
  forwards := h.forwards
  execute := fun args context (world, calls) =>
    let (attempt, world) := h.execute args context world
    (attempt, (world, calls ++ [⟨verb, args, context⟩]))

namespace Registry

/-- The same handlers, each of which notes its executions. -/
def watched (r : Registry σ) : Registry (σ × List Call) :=
  ⟨fun verb => (r.handler? verb).map (Handler.watched verb)⟩

def callsOf (r : Registry σ) (line : String) (context : Context) : List Call :=
  match Script.Command.parse line with
  | none => []
  | some command =>
    match Verb.ofName? command.verb with
    | none => []
    | some verb => if (r.handler? verb).isSome then [⟨verb, command.args, context⟩] else []

theorem watched_forwards (r : Registry σ) (command : Script.Command) :
    r.watched.forwards command = r.forwards command := by
  cases hv : Verb.ofName? command.verb with
  | none => simp [forwards, resolve, hv]
  | some verb =>
    cases hh : r.handler? verb <;> simp [forwards, resolve, hv, watched, hh, Handler.watched]

end Registry

namespace Interpreter

def watched (i : Interpreter σ) : Interpreter (σ × List Call) := ⟨i.registry.watched, i.stepTimeout⟩

/-- What the handlers of the started lines are executed with. -/
def calls (i : Interpreter σ) (request : Inbound) (lines : List String) : List Call :=
  ((i.started lines).mapIdx fun j line =>
    i.registry.callsOf line ⟨lines.drop (j + 1), request⟩).flatten

theorem watched_forwardsLine (i : Interpreter σ) :
    i.watched.forwardsLine = i.forwardsLine := by
  funext line
  simp only [forwardsLine, watched, Registry.watched_forwards]

theorem watched_halting (i : Interpreter σ) (lines : List String) :
    i.watched.halting lines = i.halting lines := by
  simp only [halting, watched_forwardsLine]

theorem watched_executeLine (i : Interpreter σ) (line : String) (context : Context) (world : σ)
    (calls : List Call) :
    i.watched.executeLine line context (world, calls) =
      ((i.executeLine line context world).1, (i.executeLine line context world).2,
        calls ++ i.registry.callsOf line context) := by
  cases hc : Script.Command.parse line with
  | none => simp [executeLine, Registry.callsOf, hc]
  | some command =>
    cases hv : Verb.ofName? command.verb with
    | none =>
      simp [executeLine, Registry.callsOf, hc, hv, Registry.execute, Registry.resolve, watched]
    | some verb =>
      cases hh : i.registry.handler? verb <;>
        simp [executeLine, Registry.callsOf, hc, hv, hh, Registry.execute, Registry.resolve,
          watched, Registry.watched, Handler.watched]

theorem calls_cons (i : Interpreter σ) (request : Inbound) (line : String) (rest : List String) :
    i.calls request (line :: rest) = i.registry.callsOf line ⟨rest, request⟩ ++
      if i.forwardsLine line then [] else i.calls request rest := by
  by_cases h : i.forwardsLine line <;> simp [calls, started_cons, h, List.mapIdx_cons]

theorem watched_steps (i : Interpreter σ) (request : Inbound) (lines : List String) (world : σ)
    (calls : List Call) :
    i.watched.steps request lines (world, calls) = i.steps request lines world := by
  induction lines generalizing world calls with
  | nil => rfl
  | cons line rest ih =>
    simp only [steps, watched_executeLine, watched_forwardsLine, ih]

theorem watched_left (i : Interpreter σ) (request : Inbound) (lines : List String) (world : σ)
    (calls : List Call) :
    i.watched.left request lines (world, calls) =
      (i.left request lines world, calls ++ i.calls request lines) := by
  induction lines generalizing world calls with
  | nil => simp [left, Interpreter.calls]
  | cons line rest ih =>
    rw [calls_cons]
    by_cases h : i.forwardsLine line
    · simp [left, watched_executeLine, watched_forwardsLine, h]
    · simp [left, watched_executeLine, watched_forwardsLine, h, ih]

/-- The lines up to the first that forwards are started, one block each and one
execution of each handler; all lines are where none forwards. What the
handlers do, fail at or leave unanswered has no part in it. -/
theorem run_to_first_forward (i : Interpreter σ) (clock : Clock) (request : Inbound)
    (lines : List String) (world : σ) :
    let report := i.runLines clock request lines world
    let watched := i.watched.runLines clock request lines (world, [])
    (∀ k, lines.findIdx? i.forwardsLine = some k →
      report.halt = .forwarded ∧ report.executed = k + 1) ∧
    (lines.findIdx? i.forwardsLine = none →
      report.halt = .exhausted ∧ report.executed = lines.length) ∧
    List.Forall₂ (fun (line, j) block => Step.Frames line (clock j) block)
      (lines.take report.executed).zipIdx report.transcript.blocks ∧
    watched.world.2 = ((lines.take report.executed).mapIdx fun j line =>
      i.registry.callsOf line ⟨lines.drop (j + 1), request⟩).flatten ∧
    (watched.transcript, watched.halt, watched.world.1) =
      (report.transcript, report.halt, report.world) ∧
    ∀ {τ : Type} (other : Interpreter τ) (clock' : Clock) (request' : Inbound) (world' : τ),
      (∀ line ∈ lines, other.forwardsLine line = i.forwardsLine line) →
      let report' := other.runLines clock' request' lines world'
      report'.executed = report.executed ∧ report'.halt = report.halt := by
  intro report watched
  have executed : report.executed = (i.started lines).length :=
    i.runLines_executed clock request lines world
  have taken : lines.take report.executed = i.started lines := by
    rw [executed, take_length_started]
  refine ⟨?_, ?_, ?_, ?_, ?_, ?_⟩
  · intro k hk
    have halt : i.halting lines = .forwarded := by simp only [halting, hk]
    exact ⟨by simp only [report, runLines_eq, halt], by rw [executed, started_length_of_some i hk]⟩
  · intro hn
    have halt : i.halting lines = .exhausted := by simp only [halting, hn]
    exact ⟨by simp only [report, runLines_eq, halt], by rw [executed]; simp only [started, hn]⟩
  · rw [taken, ← i.steps_lines request lines world]
    simp only [report, runLines_eq]
    exact Step.forall₂_blocks clock _
  · rw [taken]
    simp only [watched, runLines_eq, watched_left, calls, List.nil_append]
  · simp only [watched, report, runLines_eq, watched_left, watched_steps, watched_halting]
  · intro τ other clock' request' world' same
    simp only [report, runLines_executed]
    simp only [runLines_eq]
    exact ⟨by rw [started_congr same], halting_congr same⟩

end Interpreter
end HopProbe
