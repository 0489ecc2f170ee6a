import HopProbe.Http.ContentType
import HopProbe.Http.Status
import HopProbe.Text.Charset
import HopProbe.Url.Basic

/-!
# Requests and replies

A reply to a request is a response, a closed connection, or nothing at all. A
response may break off before the end of its body.
-/

set_option autoImplicit false

namespace HopProbe.Http
open HopProbe.Text

inductive Method where
  | get
  | post
  | put
  | delete
  deriving DecidableEq, Repr

def Method.name : Method → String
  | .get => "GET"
  | .post => "POST"
  | .put => "PUT"
  | .delete => "DELETE"

structure Request where
  method : Method
  url : Url
  fields : Fields
  body : List UInt8
  deriving DecidableEq, Repr

structure Response where
  status : Nat
  fields : Fields
  body : List UInt8
  /-- Whether the body arrives to its end. -/
  complete : Bool
  deriving DecidableEq, Repr

inductive Reply where
  | response (r : Response)
  | closed
  | silent
  deriving DecidableEq, Repr

def maxAddress : Nat := 65534

/-- The address that a peer sees, which has no fragment. -/
def Request.address (r : Request) : String := r.url.withoutFragment.text

namespace Response

def content? (r : Response) : Option (List UInt8) :=
  if isBodiless r.status then some [] else if r.complete then some r.body else none

def charset (r : Response) : Charset :=
  match ((r.fields.plain? "content-type").bind ContentType.charset?).map Charset.ofLabel with
  | some charset => charset
  | none => .utf8

def text? (r : Response) : Option String :=
  r.content?.map fun bs => String.ofList (r.charset.decode bs)

/-- An unreadable body counts as empty where it only explains a failure. -/
def explanation (r : Response) : String := r.text?.getD ""

def statusText (r : Response) : String := toString r.status ++ " " ++ reason r.status

end Response
end HopProbe.Http
