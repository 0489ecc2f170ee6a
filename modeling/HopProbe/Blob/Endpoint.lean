import HopProbe.Text.Blank
import HopProbe.Text.Keyed
import HopProbe.Text.Quoted
import HopProbe.Url.Edit

/-!
# Where a blob service is

An endpoint is a service URL, whose query is a shared access signature, or a
connection string of `Key=Value` segments. In a connection string the last
value of a key counts and unknown keys do not.
-/

set_option autoImplicit false

namespace HopProbe.Blob
open HopProbe.Text

structure Endpoint where
  base : Url
  /-- The shared access signature, which every request repeats. -/
  signature : Option String
  deriving DecidableEq, Repr

inductive EndpointError where
  | unreadable (text : String) (cause : Url.ParseError)
  | malformedSegment (segment : String)
  | accountKey
  | noLocation
  /-- The path of the URL is opaque. -/
  | noPath (base : String)
  deriving DecidableEq, Repr

def EndpointError.message : EndpointError → String
  | .unreadable text cause => "endpoint " ++ quote text ++ ": " ++ cause.message
  | .malformedSegment segment => "malformed connection string segment " ++ quote segment
  | .accountKey =>
    "account-key connection strings are not supported; use a SharedAccessSignature"
  | .noLocation => "connection string needs BlobEndpoint or AccountName"
  | .noPath base => "endpoint " ++ base ++ " cannot hold a path"

namespace Endpoint

def isServiceUrl (s : String) : Bool :=
  "http://".toList.isPrefixOf s.toList || "https://".toList.isPrefixOf s.toList

def parseBase (text : String) : Except EndpointError Url :=
  match Url.parse text with
  | .ok url => .ok url
  | .error cause => .error (.unreadable text cause)

def segments (connection : String) : List (List Char) :=
  (pieces ';' connection.toList).filter fun segment => !(trimmed segment).isEmpty

def setting (segment : List Char) : Except EndpointError (String × String) :=
  match cutFirst '=' segment with
  | some (key, value) => .ok (String.ofList (trimmed key), String.ofList (trimmed value))
  | none => .error (.malformedSegment (String.ofList segment))

def withoutQuestionMarks (s : String) : String :=
  String.ofList (s.toList.dropWhile (· == '?'))

def defaultSuffix : String := "core.windows.net"

def baseText? (settings : List (String × String)) : Option String :=
  match lastValue? settings "BlobEndpoint", lastValue? settings "AccountName" with
  | some url, _ => some url
  | none, some account =>
    some ((lastValue? settings "DefaultEndpointsProtocol").getD "https" ++ "://" ++ account ++
      ".blob." ++ (lastValue? settings "EndpointSuffix").getD defaultSuffix)
  | none, none => none

def ofSettings (settings : List (String × String)) : Except EndpointError Endpoint :=
  let signature := (lastValue? settings "SharedAccessSignature").map withoutQuestionMarks
  if signature = none ∧ (lastValue? settings "AccountKey").isSome then .error .accountKey
  else match baseText? settings with
    | none => .error .noLocation
    | some text => do return ⟨← parseBase text, signature⟩

def ofConnectionString (connection : String) : Except EndpointError Endpoint := do
  ofSettings (← (segments connection).mapM setting)

def ofServiceUrl (text : String) : Except EndpointError Endpoint := do
  let url ← parseBase text
  return ⟨url.setQuery none, url.query⟩

def parse (text : String) : Except EndpointError Endpoint :=
  if isServiceUrl text then ofServiceUrl text else ofConnectionString text

/-- The URL of a resource, with a query of its own in front of the signature. -/
def url (e : Endpoint) (path : List String) (query : Option String) : Except EndpointError Url :=
  match e.base.push? path with
  | none => .error (.noPath e.base.text)
  | some url =>
    match query.toList ++ e.signature.toList with
    | [] => .ok url
    | parts => .ok (url.setQuery (some (String.intercalate "&" parts)))

end Endpoint
end HopProbe.Blob
