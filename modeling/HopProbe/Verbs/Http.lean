import HopProbe.Http.Client
import HopProbe.Script.Lines
import HopProbe.Text.Quoted
import HopProbe.Url.Parser

/-!
# HTTP

`GET` fetches a resource. `POST` sends the lines that have not been started as
the body of a request and is the last line of its run; if the peer runs them,
its transcript is the output.
-/

set_option autoImplicit false

namespace HopProbe.Verbs.Http
open HopProbe.Text HopProbe.Http

inductive Method where
  | get
  | post
  deriving DecidableEq, Repr

structure Action where
  method : Method
  url : String
  fields : Fields
  deriving DecidableEq, Repr

def Method.read (word : String) : Except UsageError Method :=
  if word = "GET" then .ok .get
  else if word = "POST" then .ok .post
  else .error (.invalid .http ("unsupported method " ++ quote word ++ " (expected GET or POST)"))

def readField (segment : List Char) : Except UsageError Field :=
  match cutFirst '=' segment with
  | none =>
    .error (.invalid .http ("header " ++ quote (String.ofList segment) ++ " is not key=value"))
  | some (name, value) =>
    let name := String.ofList name
    let value := String.ofList value
    if isToken name then
      if isFieldValue value then .ok ⟨lower name, value⟩
      else .error (.invalid .http
        ("header value " ++ quote value ++ ": failed to parse header value"))
    else .error (.invalid .http ("header name " ++ quote name ++ ": invalid HTTP header name"))

/-- Puts the fields of segments behind others, as long as the table of these has room. A field that
it has no room for is the last one read. -/
def readSegments (taken : Fields) : List (List Char) → Except UsageError Fields
  | [] => .ok taken
  | segment :: rest => do
    let fields := taken ++ [← readField segment]
    if isFull taken.names then return fields else readSegments fields rest

def readFields (list : String) : Except UsageError Fields :=
  readSegments [] ((pieces '|' list.toList).filter (! ·.isEmpty))

def read (args : List String) : Except UsageError Action := do
  let method ← Method.read (← argument .http args 0 "method")
  let url ← argument .http args 1 "url"
  match args[2]? with
  | some list => return ⟨method, url, ← readFields list⟩
  | none => return ⟨method, url, []⟩

def forwards (args : List String) : Bool := args.head? == some "POST"

def userAgent : Field := ⟨"user-agent", "relayprobe/0.1.0"⟩

def scriptType : Field := ⟨"content-type", "text/plain; charset=utf-8"⟩

def request (action : Action) (remainder : String) : Except Failure Request :=
  match Url.parse action.url with
  | .error _ => .error .malformed
  | .ok url =>
    match action.method with
    | .get => prepare .get url action.fields [userAgent] []
    | .post => prepare .post url action.fields [userAgent, scriptType] (Utf8.bytes remainder)

/-- The names of fields that are settled on the way. -/
def managed : List String :=
  ["host", "accept", "content-length", "transfer-encoding", "connection"]

/-- The body of a success, or the status with the body as its explanation. A step whose table of
fields has no room for all that is sent comes to no end. -/
def perform (action : Action) (context : Context) : Effect String := do
  let r ← Effect.ofExcept Fault.http (request action context.remainderScript)
  if isFull (r.fields.names ++ managed) then throw .unanswered
  let (answered, response) ← send r
  if isSuccess response.status then received answered response.text?
  else return response.statusText ++ " " ++ response.explanation

def probe : Probe where
  verb := .http
  usage := "GET|POST <url> [\"name=value|name=value\"]  (POST forwards the rest of the script)"
  forwards := forwards
  run := fun args context => do perform (← Effect.check (read args)) context

end HopProbe.Verbs.Http
