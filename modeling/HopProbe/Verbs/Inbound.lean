import HopProbe.World.Effect

/-!
# HEADER and CONNECTION

Both show the request that carried the script: its header fields, and the
address that it came from.
-/

set_option autoImplicit false

namespace HopProbe.Verbs.Inbound

def fieldLine (name value : String) : String := "HEADER: " ++ name ++ ": " ++ value

/-- All fields, or the values of one name on one line. -/
def headerReport (name : Option String) (request : HopProbe.Inbound) : String :=
  match name with
  | some name => fieldLine name (String.intercalate ", " (request.headerValues name))
  | none => String.intercalate "\n" (request.headers.map fun (name, value) => fieldLine name value)

def headerProbe : Probe where
  verb := .header
  usage := "[name]"
  forwards := Probe.never
  run := fun args context => pure (headerReport args.head? context.request)

def connectionReport (ipOnly : Bool) (remote : Option SocketAddress) : String :=
  match remote, ipOnly with
  | some a, true => "IP: " ++ a.ip.text
  | some a, false => "CONNECTION: " ++ a.text
  | none, true => "IP: unknown"
  | none, false => "CONNECTION: unknown"

def connectionProbe : Probe where
  verb := .connection
  usage := "[IP]"
  forwards := Probe.never
  run := fun args context =>
    pure (connectionReport (args.head? == some "IP") context.request.remote)

end HopProbe.Verbs.Inbound
