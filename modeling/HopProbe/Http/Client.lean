import HopProbe.Http.Redirect
import HopProbe.Text.Base64
import HopProbe.Text.Blank
import HopProbe.World.Effect

/-!
# Sending requests

A request goes to an HTTP address. Credentials in the address become a field
of the request and are not part of the address that is sent, unless the name
of the user is no text. A body that the fields want to arrive in another form
arrives in chunks. A response that sends the request elsewhere is followed.
-/

set_option autoImplicit false

namespace HopProbe.Http
open HopProbe.Text

def basicField (user : String) (password : Option String) : Field :=
  ⟨"authorization", "Basic " ++ Base64.text (Utf8.bytes (user ++ ":" ++ password.getD ""))⟩

def decoded? (s : String) : Option String := Utf8.text? (Url.Percent.decode s.toList)

def credentials? (url : Url) : Option (String × Option String) :=
  match decoded? url.username with
  | none => none
  | some user =>
    let password := url.password.bind decoded?
    if user = "" ∧ password = none then none else some (user, password)

def isUnsendable (c : Char) : Bool := ['"', '\x60', '\x7b', '\x7d'].contains c

def isSendable (url : Url) : Bool :=
  (url.scheme == "http" || url.scheme == "https") && url.text.length ≤ maxAddress &&
    match url.host with
    | some (.name s) => !s.toList.any isUnsendable
    | _ => true

def endsInChunks (value : String) : Bool :=
  isPlainValue value &&
    sameLetters (String.ofList (trimmed ((pieces ',' value.toList).getLastD []))) "chunked"

/-- The fields that say how a body arrives. None does where there is no body;
else the last of them names chunks at its end. -/
def framed (body : List UInt8) (fields : Fields) : Fields :=
  match (fields.filter fun f => f.name == "transfer-encoding").reverse with
  | [] => fields
  | last :: earlier =>
    let others := fields.filter fun f => f.name != "transfer-encoding"
    if body.isEmpty then others
    else
      let value := if endsInChunks last.value then last.value else last.value ++ ", chunked"
      others ++ earlier.reverse ++ [⟨last.name, value⟩]

def claimedLength? (fields : Fields) : Option Nat :=
  match ((fields.values "content-length").flatMap fun v => pieces ',' v.toList).map
      fun piece => SocketAddress.digits? (twoTo 64) (trimmed piece) with
  | some length :: others => if others.all (· == some length) then some length else none
  | _ => none

def sentBody (fields : Fields) (body : List UInt8) : List UInt8 :=
  if fields.names.contains "transfer-encoding" then body
  else match claimedLength? fields with
    | some length => body.take length
    | none => body

def prepare (method : Method) (url : Url) (fields defaults : Fields) (body : List UInt8) :
    Except Failure Request :=
  if url.hasHost then
    let (url, defaults) := match credentials? url with
      | some (user, password) => (url.withoutCredentials, basicField user password :: defaults)
      | none => (url, defaults)
    let fields := framed body (fields.replacing defaults)
    if isSendable url then .ok ⟨method, url, fields, sentBody fields body⟩
    else .error (.unusable url.text)
  else .error (.unusable url.text)

def maxHops : Nat := 10

/-- What becomes of a request that has a reply. A response that sends it elsewhere is followed, as
often as hops are left; failures to arrive name the address that was meant at `first`. -/
def settle (first : Url) : Nat → Request → Reply → Effect (Request × Response)
  | _, _, .closed => Effect.fault (.http (.noResponse first.text))
  | _, _, .silent => throw .unanswered
  | hops, r, .response response =>
    match (place? r response).map Url.parse with
    | none => return (r, response)
    | some (.error _) => Effect.fault (.http (.unusable first.text))
    | some (.ok next) =>
      match hops with
      | 0 => Effect.fault (.http (.astray r.url.text))
      | hops + 1 =>
        if next.scheme = "http" ∨ next.scheme = "https" then do
          let (reply, w) := (← get).pursue (onward r response.status next)
          set w
          settle first hops (onward r response.status next) reply
        else Effect.fault (.http (.unusable next.text))

/-- Sends a request and waits for the head of a response that is not sent elsewhere, and for the
request that it answers. -/
def send (r : Request) : Effect (Request × Response) := do
  let (reply, w) := (← get).exchange r
  set w
  settle r.url maxHops r reply

/-- The value of a response's body, which must arrive to its end. -/
def received {α : Type} (r : Request) : Option α → Effect α
  | some a => pure a
  | none => Effect.fault (.http (.brokenBody r.url.withoutFragment.text))

end HopProbe.Http
