import HopProbe.Run.Interpreter
import HopProbe.Service.Body
import HopProbe.Service.Site
import HopProbe.World.Basic

/-!
# The service

A script is posted and its transcript is the answer. The body is read before
anything runs: nothing runs if it is too long or breaks off. Paths that no
route claims belong to the site, if there is one.
-/

set_option autoImplicit false

namespace HopProbe
open HopProbe.Text

structure Service where
  interpreter : Interpreter World
  /-- The largest body accepted, in bytes. -/
  maxBody : Nat
  site : Option Service.Site

namespace Service

/-- A service whose site is a directory, if that is there now. -/
def start (interpreter : Interpreter World) (maxBody : Nat) (directory : Option String)
    (files : FileSystem) : Service where
  interpreter := interpreter
  maxBody := maxBody
  site := (directory.map Utf8.bytes).bind fun root =>
    if files.contains root then some ⟨root⟩ else none

inductive BodyError where
  | tooLong
  | broken (detail : String)
  deriving DecidableEq, Repr

namespace BodyError

def status : BodyError → Nat
  | tooLong => 413
  | broken _ => 400

def message : BodyError → String
  | tooLong => "failed to read body: length limit exceeded"
  | broken detail => "failed to read body: " ++ detail

end BodyError

/-- Takes the pieces one by one, as long as room is left for them. -/
def collect (room : Nat) (broken : Option String) (taken : List (List UInt8)) :
    List (List UInt8) → Except BodyError (List UInt8)
  | [] => match broken with
    | none => .ok taken.reverse.flatten
    | some detail => .error (.broken detail)
  | chunk :: rest =>
    if chunk.length ≤ room then collect (room - chunk.length) broken (chunk :: taken) rest
    else .error .tooLong

def readBody (limit : Nat) (r : Request) : Except BodyError (List UInt8) :=
  collect limit r.broken [] r.chunks

def Request.inbound (r : Request) : Inbound :=
  ⟨r.headers.map fun f => (f.name, f.value), r.remote⟩

def script (r : Request) (body : List UInt8) : String :=
  String.ofList (decodeBody r.contentType? body)

def runCommands (s : Service) (clock : Clock) (r : Request) (w : World) : Response × World :=
  match readBody s.maxBody r with
  | .error e => (.plainText e.status e.message, w)
  | .ok body =>
    let (transcript, w) := s.interpreter.run clock r.inbound (script r body) w
    (.plainText 200 transcript, w)

def health (r : Request) : Response :=
  if r.method = "GET" then .plainText 200 "ok"
  else if r.method = "HEAD" then (Response.plainText 200 "ok").withoutBody
  else .methodNotAllowed "GET,HEAD"

inductive Route where
  | commands
  | health
  deriving DecidableEq, Repr

def Route.ofPath? : String → Option Route
  | "/api/commands" => some .commands
  | "/health" => some .health
  | _ => none

def elsewhere (s : Service) (r : Request) (w : World) : Response :=
  match s.site with
  | some site => site.respond w.files r
  | none => .notFound

def respond (s : Service) (clock : Clock) (r : Request) (w : World) : Response × World :=
  match Route.ofPath? r.path with
  | some .commands =>
    if r.method = "POST" then s.runCommands clock r w else (.methodNotAllowed "POST", w)
  | some .health => (health r, w)
  | none => (s.elsewhere r w, w)

def respondAll (s : Service) (clock : Clock) : List Request → World → List Response × World
  | [], w => ([], w)
  | r :: rs, w =>
    let (response, w) := s.respond clock r w
    let (responses, w) := s.respondAll clock rs w
    (response :: responses, w)

end Service
end HopProbe
