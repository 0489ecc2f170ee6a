import HopProbe.Step.Handler
import HopProbe.World.Basic

/-!
# Effects

An effect changes the world and has a value, unless it stops: at a misuse of
its line, at a fault, or because no answer ever comes. Nothing keeps it from
doing so at any point.
-/

set_option autoImplicit false

namespace HopProbe

inductive Stop where
  | usage (error : UsageError)
  | fault (cause : Fault)
  | unanswered
  deriving DecidableEq, Repr

abbrev Effect (α : Type) := ExceptT Stop (StateM World) α

namespace Effect

def fault {α : Type} (cause : Fault) : Effect α := throw (.fault cause)

def ofExcept {α ε : Type} (wording : ε → Fault) : Except ε α → Effect α
  | .ok a => pure a
  | .error e => fault (wording e)

/-- A look at the arguments of a line. -/
def check {α : Type} : Except UsageError α → Effect α
  | .ok a => pure a
  | .error e => throw (.usage e)

def record (e : Event) : Effect Unit := modify fun w => w.record e

def attemptOf : Except Stop String → Attempt
  | .ok text => .finished text
  | .error (.usage e) => .failed (.usage e)
  | .error (.fault cause) => .failed (.fault cause)
  | .error .unanswered => .unanswered

def outcome (e : Effect String) (w : World) : Attempt × World :=
  let (result, w) := e.run.run w
  (attemptOf result, w)

end Effect

structure Probe where
  verb : Verb
  usage : String
  forwards : List String → Bool
  run : List String → Context → Effect String

namespace Probe

def execute (p : Probe) (args : List String) (context : Context) (w : World) : Attempt × World :=
  (p.run args context).outcome w

def handler (p : Probe) : Handler World := ⟨p.verb, p.usage, p.forwards, p.execute⟩

def never (_ : List String) : Bool := false

end Probe

def argument (verb : Verb) (args : List String) (position : Nat) (name : String) :
    Except UsageError String :=
  match args[position]? with
  | some arg => .ok arg
  | none => .error (.missing verb name)

end HopProbe
