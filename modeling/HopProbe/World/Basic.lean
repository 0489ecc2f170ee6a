import HopProbe.Http.Message
import HopProbe.Net.HostAddress
import HopProbe.Span
import HopProbe.World.FileSystem
import HopProbe.World.Machine
import HopProbe.World.Store

/-!
# The world outside

Everything that a step can reach: peers, names, stores, databases, files and
the machine itself. What a step reaches for is recorded in order, whether or
not it is there.
-/

set_option autoImplicit false

namespace HopProbe

structure Peer where
  accepts : Http.Request → Bool
  reply : Http.Request → Http.Reply
  /-- Whether it answers a single time. -/
  once : Bool

def Peer.fixed (method : Option String) (address : String) (reply : Http.Reply) (once : Bool) :
    Peer where
  accepts := fun r => r.address == address && (method.isNone || method == some r.method.name)
  reply := fun _ => reply
  once := once

structure DnsRecord where
  name : String
  ttl : Nat
  type : String
  data : String
  deriving DecidableEq, Repr

inductive SqlValue where
  | null
  | integer (n : Int)
  | real (bits : UInt64)
  | text (bytes : List UInt8)
  | blob (bytes : List UInt8)
  deriving DecidableEq, Repr

/-- The result of a query. Its rows come one at a time, and the engine can fail at each. -/
structure SqlResult where
  columns : List String
  rows : List (Except String (List SqlValue))

structure SqlAnswer where
  path : String
  query : String
  result : Except String SqlResult

structure StoreSession where
  user : Option String
  password : Option String
  database : Int
  deriving DecidableEq, Repr

inductive StoreCommand where
  | get (key : String)
  | set (key value : String)
  deriving DecidableEq, Repr

/-- How a port of a host can be spoken to. -/
inductive Security where
  | plain
  /-- Over encrypted connections, to one who proves to be the host. -/
  | proven
  /-- Over encrypted connections, to one whose proof is not accepted. -/
  | unproven
  deriving DecidableEq, Repr

inductive Event where
  | request (r : Http.Request)
  /-- A request that a response sent elsewhere, on its way there. -/
  | followUp (r : Http.Request)
  | connect (host : String) (port : Nat)
  | lookup (host : String)
  | nameQuery (name : String) (server : Option IpAddress)
  | store (session : StoreSession) (command : StoreCommand)
  | query (path text : String)
  | file (path : String)
  | machine
  deriving DecidableEq, Repr

structure World where
  files : FileSystem
  environment : Environment
  peers : List Peer
  /-- Addresses that accept connections. -/
  listeners : List SocketAddress
  security : String → Nat → Security
  storeAddress : SocketAddress
  store : Store
  /-- What the store makes of what it is sent next, by all that has been reached for. -/
  conduct : List Event → Conduct
  /-- What the system's resolver knows. -/
  hosts : List (String × List SocketAddress)
  nameServer : IpAddress
  zone : List (String × List DnsRecord)
  /-- How long a name query takes. -/
  queryTime : Elapsed
  answers : List SqlAnswer
  machine : Machine
  events : List Event

namespace World

def record (w : World) (e : Event) : World := { w with events := w.events ++ [e] }

/-- The first peer that accepts a request, and the peers left after its reply. -/
def answerFrom (r : Http.Request) : List Peer → Http.Reply × List Peer
  | [] => (.closed, [])
  | p :: ps =>
    if p.accepts r then (p.reply r, if p.once then ps else p :: ps)
    else
      let (reply, ps) := answerFrom r ps
      (reply, p :: ps)

/-- Whether a connection for a request to a URL comes about. -/
def carries (w : World) (url : Url) : Bool :=
  url.scheme == "http" ||
    w.security ((url.host.map Url.Host.text).getD "") (url.port.getD 443) == .proven

def ask (w : World) (r : Http.Request) : Http.Reply × World :=
  if w.carries r.url then
    let (reply, peers) := answerFrom r w.peers
    (reply, { w with peers })
  else (.closed, w)

def exchange (w : World) (r : Http.Request) : Http.Reply × World := (w.record (.request r)).ask r

def pursue (w : World) (r : Http.Request) : Http.Reply × World := (w.record (.followUp r)).ask r

def unknownHost : IoError :=
  .described "failed to lookup address information: Name or service not known"

def ownInterface : String := "lo"

def interfaceNames (w : World) : List String :=
  match w.machine.interfaces with
  | .ok interfaces => ownInterface :: interfaces.map Interface.name
  | .error _ => [ownInterface]

def addresses (w : World) (host : String) : Except IoError (List SocketAddress) :=
  if host.toList.contains '\x00' then .error FileSystem.nulInPath
  else match HostAddress.parse? w.interfaceNames host with
  | some ip => .ok [⟨ip, 0⟩]
  | none =>
    match w.hosts.find? fun (name, _) => name == host with
    | some (_, found) => .ok found
    | none => .error unknownHost

def reaches (w : World) (waiting : List SocketAddress) (host : String) (port : Nat) :
    Except IoError Unit := do
  let found ← w.addresses host
  if found.any fun a => waiting.contains ⟨a.ip.unmapped, port⟩ then .ok ()
  else .error .connectionRefused

def connects (w : World) (host : String) (port : Nat) : Except IoError Unit :=
  w.reaches (w.storeAddress :: w.listeners) host port

/-- Whether the store is met at a port of a host over a plain connection. A port that knows only
encrypted ones ends it. -/
def meetsStore (w : World) (host : String) (port : Nat) : Except IoError Unit := do
  w.reaches [w.storeAddress] host port
  match w.security host port with
  | .plain => .ok ()
  | .proven | .unproven => .error .brokenPipe

def meetsStoreEncrypted (w : World) (host : String) (port : Nat) : Except IoError Unit := do
  w.reaches [w.storeAddress] host port
  match w.security host port with
  | .proven => .ok ()
  | .plain => .error (.described "received corrupt message of type InvalidContentType")
  | .unproven => .error (.described "invalid peer certificate: UnknownIssuer")

def isOwn (w : World) (ip : IpAddress) : Bool :=
  ip.isLoopback || ip.isUnspecified ||
    match w.machine.interfaces with
    | .ok found => found.any fun i => i.address == some (.ip ip)
    | .error _ => false

def withoutBrackets (host : String) : String :=
  match host.toList with
  | '[' :: rest => if rest.getLast? == some ']' then String.ofList rest.dropLast else host
  | _ => host

def canListen (w : World) (host : String) : Bool :=
  match w.addresses (withoutBrackets host) with
  | .ok found => found.any fun a => w.isOwn a.ip
  | .error _ => false

end World
end HopProbe
