import HopProbe.World.Effect

/-!
# IPLOOKUP

Shows the addresses of a host, each once.
-/

set_option autoImplicit false

namespace HopProbe.Verbs.IpLookup

def read (args : List String) : Except UsageError String := argument .iplookup args 0 "hostname"

def distinct : List IpAddress → List IpAddress
  | [] => []
  | a :: rest => a :: (distinct rest).filter (· != a)

def report (found : List SocketAddress) : String :=
  String.intercalate "\n" ((distinct (found.map SocketAddress.ip)).map fun a => "IP: " ++ a.text)

def perform (host : String) (_ : Context) : Effect String := do
  Effect.record (.lookup host)
  let found ← Effect.ofExcept (fun e => Fault.dns (host ++ ": " ++ e.message))
    ((← get).addresses host)
  return report found

def probe : Probe where
  verb := .iplookup
  usage := "<hostname>"
  forwards := Probe.never
  run := fun args context => do perform (← Effect.check (read args)) context

end HopProbe.Verbs.IpLookup
