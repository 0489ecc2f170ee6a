import HopProbe.CommandLine.Invocation
import HopProbe.Service.Router
import HopProbe.Settings.Load
import HopProbe.Verbs.Builtin

/-!
# The program

Starts the service, runs one script, or lists the verbs. The settings are
loaded first, whatever is to be done.
-/

set_option autoImplicit false

namespace HopProbe
open HopProbe.Text HopProbe.CommandLine

namespace Settings

def withListener (s : Settings) (bind : Option String) (port : Option Nat) : Settings :=
  { s with bind := bind.getD s.bind, port := port.getD s.port }

def interpreter (s : Settings) : Interpreter World := ⟨Verbs.builtin, s.stepTimeout⟩

def service (s : Settings) (files : FileSystem) : Service :=
  Service.start s.interpreter s.maxBody s.siteDirectory files

end Settings

namespace Program

inductive Failure where
  | settings (error : SettingsError)
  | unfit (defect : Settings.Defect)
  | unreadableScript (path : String)
  | unreadableInput
  | unavailable (address : String)
  deriving DecidableEq, Repr

def Failure.message : Failure → String
  | .settings error => error.message
  | .unfit defect => defect.message
  | .unreadableScript path => "failed to read " ++ path
  | .unreadableInput => "failed to read script from stdin"
  | .unavailable address => "failed to bind " ++ address

inductive Ending where
  | printed (text : String)
  | refused (why : Refusal)
  | failed (why : Failure)
  /-- The service answers at an address until it is told to stop. -/
  | serving (address : String) (service : Service)

namespace Ending

def exitCode : Ending → Nat
  | .refused _ => 2
  | .failed _ => 1
  | _ => 0

def output : Ending → String
  | .printed text => text
  | _ => ""

/-- The line that says what went wrong. -/
def complaint? : Ending → Option String
  | .refused why => some ("error: " ++ why.message)
  | .failed why => some ("Error: " ++ why.message)
  | _ => none

end Ending

def versionText : String := "relayprobe 0.1.0\n"

def helpText : String :=
  "Usage: relayprobe [--config <CONFIG>] [serve [--bind <BIND>] [--port <PORT>] | run <SCRIPT> | verbs]\n"

def usageLine (verb : Verb) (usage : String) : String :=
  String.ofList (verb.name.toList ++ List.replicate (11 - verb.name.length) ' ') ++ " " ++ usage ++ "\n"

def usageText (registry : Registry World) : String :=
  String.join (registry.usages.map fun (verb, usage) => usageLine verb usage)

/-- The script at a path. A hyphen stands for the standard input. -/
def readScript (files : FileSystem) (input : List UInt8) (path : String) : Except Failure String :=
  if path = "-" then
    match Utf8.text? input with
    | some text => .ok text
    | none => .error .unreadableInput
  else
    match (files.readFile (Utf8.bytes path)).toOption.bind Utf8.text? with
    | some text => .ok text
    | none => .error (.unreadableScript path)

def listenerSettings (s : Settings) (bind : Option String) (port : Option Nat) :
    Except Failure Settings :=
  let s := s.withListener bind port
  match s.defect? with
  | some defect => .error (.unfit defect)
  | none => .ok s

def serve (s : Settings) (w : World) : Except Failure Ending :=
  let service := s.service w.files
  if w.canListen s.bind then .ok (.serving s.listenAddress service)
  else .error (.unavailable s.listenAddress)

def perform (clock : Clock) (input : List UInt8) (s : Settings) (w : World) :
    Command → Except Failure (Ending × World)
  | .serve bind port => do
    let s ← listenerSettings s bind port
    .ok (← serve s w, w)
  | .run path => do
    let script ← readScript w.files input path
    let (transcript, w) := s.interpreter.run clock .empty script w
    .ok (.printed (transcript ++ "\n"), w)
  | .verbs => .ok (.printed (usageText Verbs.builtin), w)

def execute (clock : Clock) (input : List UInt8) (w : World) (invocation : Invocation) :
    Except Failure (Ending × World) := do
  let settings ← (Settings.resolve w.files w.environment invocation.config).mapError .settings
  perform clock input settings w invocation.command

def run (clock : Clock) (words : List String) (input : List UInt8) (w : World) : Ending × World :=
  match Invocation.parse words with
  | .error .version => (.printed versionText, w)
  | .error .help => (.printed helpText, w)
  | .error (.refused why) => (.refused why, w)
  | .ok invocation =>
    match execute clock input w invocation with
    | .ok (ending, w) => (ending, w)
    | .error why => (.failed why, w)

end Program
end HopProbe
