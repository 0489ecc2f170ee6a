import HopProbe.Text.Ascii
import HopProbe.Text.Blank
import HopProbe.Text.Keyed
import HopProbe.Text.Quoted
import HopProbe.Url.Edit

/-!
# Where a key-value store is

An endpoint with `://` in it is a URL. Any other is a host and options after
commas, of which the last of each name counts, and becomes a URL.
-/

set_option autoImplicit false

namespace HopProbe.KeyValue
open HopProbe.Text

inductive EndpointError where
  | empty
  | unreadable (endpoint : String) (cause : Url.ParseError)
  | userNotAllowed
  | passwordNotAllowed
  deriving DecidableEq, Repr

def EndpointError.message : EndpointError → String
  | .empty => "empty endpoint"
  | .unreadable endpoint cause => "endpoint " ++ quote endpoint ++ ": " ++ cause.message
  | .userNotAllowed => "user not allowed for this endpoint"
  | .passwordNotAllowed => "password not allowed for this endpoint"

def hasSchemeMark : List Char → Bool
  | [] => false
  | c :: cs => [':', '/', '/'].isPrefixOf (c :: cs) || hasSchemeMark cs

def option? (part : List Char) : Option (String × String) :=
  (cutFirst '=' part).map fun (name, value) =>
    (lower (String.ofList (trimmed name)), String.ofList value)

def defaultPort : String := "6379"

def withPort (host : String) : String :=
  if host.toList.contains ':' then host else host ++ ":" ++ defaultPort

def baseText (host : String) (options : List (String × String)) : String :=
  let tls := (lastValue? options "ssl").any (sameLetters "true")
  (if tls then "rediss" else "redis") ++ "://" ++ withPort host

def orElse {α β ε : Type} (change : α → β → Option β) (error : ε) (value : Option α) (b : β) :
    Except ε β :=
  match value with
  | none => .ok b
  | some a =>
    match change a b with
    | some b => .ok b
    | none => .error error

def ofOptions (endpoint host : String) (options : List (String × String)) :
    Except EndpointError Url := do
  let url ← match Url.parse (baseText host options) with
    | .ok url => .ok url
    | .error cause => .error (.unreadable endpoint cause)
  let url ← orElse (fun user (u : Url) => u.setUsername? user) .userNotAllowed
    (lastValue? options "user") url
  let url ← orElse (fun password (u : Url) => u.setPassword? password) .passwordNotAllowed
    (lastValue? options "password") url
  return match lastValue? options "defaultdatabase" with
    | some path => url.setPath path
    | none => url

def urlText (endpoint : String) : Except EndpointError String :=
  if hasSchemeMark endpoint.toList then .ok endpoint
  else match (pieces ',' endpoint.toList).map trimmed with
    | host :: options =>
      if host.isEmpty then .error .empty
      else (ofOptions endpoint (String.ofList host) (options.filterMap option?)).map Url.text
    | [] => .error .empty

end HopProbe.KeyValue
