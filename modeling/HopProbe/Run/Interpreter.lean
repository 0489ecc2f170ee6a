import HopProbe.Run.Transcript
import HopProbe.Step.Registry

/-!
# Running a script

The lines are started one after the other. A line that forwards is the last
one started, whatever becomes of it; no other outcome stops a run.
-/

set_option autoImplicit false

namespace HopProbe

structure Interpreter (σ : Type) where
  registry : Registry σ
  /-- How long a step may take. -/
  stepTimeout : Span

inductive Halt where
  /-- All lines were started. -/
  | exhausted
  /-- The lines not started were handed to a peer. -/
  | forwarded
  deriving DecidableEq, Repr

/-- When each step ended, by its position in the run. -/
abbrev Clock := Nat → Elapsed

structure Report (σ : Type) where
  transcript : Transcript
  halt : Halt
  world : σ

def Report.executed {σ : Type} (r : Report σ) : Nat := r.transcript.steps

namespace Interpreter

variable {σ : Type}

def emptyResponse : String := "-"

def forwardsLine (i : Interpreter σ) (line : String) : Bool :=
  match Script.Command.parse line with
  | some command => i.registry.forwards command
  | none => false

/-- A line without tokens does nothing. -/
def executeLine (i : Interpreter σ) (line : String) (context : Context) (world : σ) : Outcome × σ :=
  match Script.Command.parse line with
  | none => (.success "", world)
  | some command =>
    let (attempt, world) := i.registry.execute command context world
    (attempt.outcome i.stepTimeout, world)

/-- Continues a run with the lines not yet started. -/
def resume (i : Interpreter σ) (clock : Clock) (request : Inbound) :
    List String → Transcript → σ → Report σ
  | [], transcript, world => ⟨transcript, .exhausted, world⟩
  | line :: rest, transcript, world =>
    let (outcome, world) := i.executeLine line ⟨rest, request⟩ world
    let transcript := (transcript.start line).finish line outcome (clock transcript.steps)
    if i.forwardsLine line then ⟨transcript, .forwarded, world⟩
    else i.resume clock request rest transcript world

def runLines (i : Interpreter σ) (clock : Clock) (request : Inbound) (lines : List String)
    (world : σ) : Report σ :=
  i.resume clock request lines .empty world

def run (i : Interpreter σ) (clock : Clock) (request : Inbound) (body : String) (world : σ) :
    String × σ :=
  match Script.lines body with
  | [] => (emptyResponse, world)
  | lines =>
    let report := i.runLines clock request lines world
    (report.transcript.render, report.world)

end Interpreter
end HopProbe
