import HopProbe.Text.Cut
import HopProbe.Text.Keyed
import HopProbe.Text.Utf8
import HopProbe.Verbs.Counters
import HopProbe.World.Effect

/-!
# INFO

Shows the host name, the network interfaces or the environment of the machine.
-/

set_option autoImplicit false

namespace HopProbe.Verbs.Info
open HopProbe.Text

inductive Action where
  | hostName
  | network
  | environment (name : Option String)
  deriving DecidableEq, Repr

/-- Any first word but the two keywords asks for the environment; a second one names a variable. -/
def read (args : List String) : Action :=
  match args.head? with
  | some "HOSTNAME" => .hostName
  | some "NETWORK" => .network
  | _ => .environment args[1]?

def equals : UInt8 := 0x3D

def kept : List UInt8 × List UInt8 → List UInt8
  | (name, value) => name ++ equals :: value

/-- What the system finds under a name: what is behind the name and an equals sign in the first
variable that begins with them. There is nothing under the empty name. -/
def valueOf? (environment : Environment) (name : List UInt8) : Option (List UInt8) :=
  if name.isEmpty then none
  else environment.findSome? fun v => stripStart (name ++ [equals]) (kept v)

/-- A value that is no text counts as empty where it is asked for by its name. -/
def shown (value : List UInt8) : String := (Utf8.text? value).getD ""

def entry (name value : String) : String := "ENV: " ++ name ++ ": " ++ value

def texts (environment : Environment) : List (String × String) :=
  environment.map fun (name, value) => (Utf8.textLossy name, Utf8.textLossy value)

/-- The variables as texts in the order of their names. Of those whose names are the same text it is
the last. -/
def arranged (environment : Environment) : List (String × String) :=
  (ascending ((texts environment).map Prod.fst)).map fun name =>
    (name, (lastValue? (texts environment) name).getD "")

def environmentReport (environment : Environment) : Option String → String
  | some name => entry name (((valueOf? environment (Utf8.bytes name)).map shown).getD "")
  | none =>
    String.intercalate "\n" ((arranged environment).map fun (name, value) => entry name value)

def trafficLine (direction : String) (t : Traffic) : String :=
  "  " ++ direction ++ ": " ++ toString t.bytes ++ " bytes, " ++ toString t.packets ++
    " packets, " ++ toString t.errors ++ " errors, " ++ toString t.dropped ++ " dropped"

def counterLines : Option Counters → List String
  | some c => [trafficLine "RX" c.received, trafficLine "TX" c.sent]
  | none => []

def block (counters : List (String × Counters)) (name : String) (entries : List Interface) :
    List String :=
  ("INTERFACE: " ++ name) :: ("  FLAGS: " ++ ((entries.head?).map Interface.flags).getD "") ::
    (entries.filterMap Interface.ip?).map (fun a => "  ADDRESS: " ++ a.text) ++
    counterLines (Counters.find? counters name)

def interfaceNames (interfaces : List Interface) : List String :=
  ascending (interfaces.map Interface.name)

def networkReport (interfaces : List Interface) (counters : List (String × Counters)) : String :=
  String.intercalate "\n" <| (interfaceNames interfaces).flatMap fun name =>
    block counters name (interfaces.filter fun i => i.name == name)

def hostNameReport (name : List UInt8) : String := "HOSTNAME: " ++ Utf8.textLossy name

def systemFault (number : Int) : Fault := .io (.os number)

def perform (action : Action) (_ : Context) : Effect String := do
  Effect.record .machine
  let w ← get
  match action with
  | .hostName => return hostNameReport (← Effect.ofExcept systemFault w.machine.hostName)
  | .network =>
    let interfaces ← Effect.ofExcept systemFault w.machine.interfaces
    return networkReport interfaces ((w.machine.counters.map Counters.ofTable).getD [])
  | .environment name => return environmentReport w.environment name

def probe : Probe where
  verb := .info
  usage := "HOSTNAME | NETWORK | [ENV] [name]"
  forwards := Probe.never
  run := fun args context => perform (read args) context

end HopProbe.Verbs.Info
