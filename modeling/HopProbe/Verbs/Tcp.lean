import HopProbe.Text.Natural
import HopProbe.World.Effect

/-!
# TCP

Opens a connection and closes it again.
-/

set_option autoImplicit false

namespace HopProbe.Verbs.Tcp
open HopProbe.Text

structure Action where
  host : String
  port : Nat
  deriving DecidableEq, Repr

def readPort (word : String) : Except UsageError Nat :=
  match readNatural 65536 word.toList with
  | .ok port => .ok port
  | .error fault => .error (.invalid .tcp ("port: " ++ fault.message))

def read (args : List String) : Except UsageError Action := do
  let host ← argument .tcp args 0 "host"
  return ⟨host, ← readPort (← argument .tcp args 1 "port")⟩

def target (action : Action) : String := action.host ++ ":" ++ toString action.port

def perform (action : Action) (_ : Context) : Effect String := do
  Effect.record (.connect action.host action.port)
  Effect.ofExcept (Fault.connect (target action)) ((← get).connects action.host action.port)
  return "OK"

def probe : Probe where
  verb := .tcp
  usage := "<host> <port>"
  forwards := Probe.never
  run := fun args context => do perform (← Effect.check (read args)) context

end HopProbe.Verbs.Tcp
