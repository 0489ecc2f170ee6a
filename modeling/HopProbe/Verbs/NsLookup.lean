import HopProbe.Net.DnsName
import HopProbe.Text.Quoted
import HopProbe.World.Effect

/-!
# NSLOOKUP

Asks a name server for all records of a name.
-/

set_option autoImplicit false

namespace HopProbe.Verbs.NsLookup
open HopProbe.Text

structure Action where
  name : String
  server : Option IpAddress
  deriving DecidableEq, Repr

def readServer (word : String) : Except UsageError IpAddress :=
  match IpAddress.parse? word with
  | some ip => .ok ip
  | none =>
    .error (.invalid .nslookup ("server " ++ quote word ++ ": " ++ IpAddress.syntaxMessage))

def read (args : List String) : Except UsageError Action := do
  let name ← argument .nslookup args 0 "name"
  match args[1]? with
  | some word => return ⟨name, some (← readServer word)⟩
  | none => return ⟨name, none⟩

def noRecord (name : String) : String :=
  "no record found for Query \x7b name: Name(\"" ++ name ++
    "\"), query_type: ANY, query_class: IN \x7d"

def dataText (r : DnsRecord) : String :=
  if ["CNAME", "NS", "PTR"].contains r.type then (DnsName.ofAnswer r.data).text
  else if r.type = "MX" then
    match cutFirst ' ' r.data.toList with
    | some (rank, host) =>
      String.ofList rank ++ " " ++ (DnsName.ofAnswer (String.ofList host)).text
    | none => r.data
  else r.data

def recordLine (r : DnsRecord) : String :=
  "RECORD: " ++ (DnsName.ofAnswer r.name).text ++ " " ++ toString r.ttl ++ " IN " ++ r.type ++
    " " ++ dataText r

def serverText (ip : IpAddress) : String :=
  match ip with
  | .v4 .. => ip.text ++ ":53 (Udp)"
  | .v6 .. => "[" ++ ip.text ++ "]:53 (Udp)"

def report (server : IpAddress) (name : String) (records : List DnsRecord) (elapsed : Elapsed) :
    String :=
  String.intercalate "\n" <|
    ("NS: " ++ serverText server) ::
    ("AUDIT: query " ++ name ++ " ANY, recursion desired, " ++ toString records.length ++
      " answer(s) in " ++ Elapsed.text elapsed) ::
    records.map recordLine

/-- The records of a name in the zone of a server; another server has none.
The server repeats the name in full. -/
def answer (w : World) (server : IpAddress) (name : DnsName) : Except String (List DnsRecord) :=
  let missing := noRecord { name with isComplete := true }.text
  match w.zone.find? fun (n, _) => n == name.wireText with
  | some (_, records) => if server = w.nameServer then .ok records else .error missing
  | none => .error missing

def protocolFault (fault : DnsName.Fault) : String := "proto error: " ++ fault.message

/-- The size of a name on the wire, which ends with the empty label. -/
def checkSize (name : DnsName) : Except String Unit :=
  let size := DnsName.sizeOfLabels name.labels + 1
  if size ≤ DnsName.maxName then .ok () else .error (protocolFault (.longName size))

def perform (action : Action) (_ : Context) : Effect String := do
  let name ← Effect.ofExcept Fault.dns ((DnsName.read action.name.toList).mapError protocolFault)
  if name.isLocal then Effect.fault (.dns (noRecord name.text))
  Effect.ofExcept Fault.dns (checkSize name)
  Effect.record (.nameQuery name.wireText action.server)
  let w ← get
  let server := action.server.getD w.nameServer
  let records ← Effect.ofExcept Fault.dns (answer w server name)
  return report server name.text records w.queryTime

def probe : Probe where
  verb := .nslookup
  usage := "<name> [server ip]"
  forwards := Probe.never
  run := fun args context => do perform (← Effect.check (read args)) context

end HopProbe.Verbs.NsLookup
