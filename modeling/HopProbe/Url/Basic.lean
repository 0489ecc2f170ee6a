import HopProbe.Url.Host
import HopProbe.Url.Path

/-!
# Resource locators

The parts of a URL, in the form in which they are written. A path that does
not start with a slash is opaque.
-/

set_option autoImplicit false

namespace HopProbe

inductive Url.Route where
  | opaquePath (text : List Char)
  | segments (parts : List (List Char))
  deriving DecidableEq, Repr

structure Url where
  scheme : String
  username : String
  password : Option String
  /-- Absent if the scheme is not followed by two slashes. -/
  host : Option Url.Host
  port : Option Nat
  /-- Whether a dot segment is written before the path, so that it does not
  read as a host. It is there from the start and stays. -/
  guarded : Bool
  route : Url.Route
  query : Option String
  fragment : Option String
  deriving DecidableEq, Repr

namespace Url

def kind (u : Url) : SchemeKind := SchemeKind.of u.scheme

/-- Whether a host is named, and not just left empty. -/
def hasHost (u : Url) : Bool :=
  match u.host with
  | some host => !host.isEmpty
  | none => false

def segmentsText (parts : List (List Char)) : List Char := parts.flatMap ('/' :: ·)

def Route.text : Route → String
  | .opaquePath text => String.ofList text
  | .segments parts => String.ofList (segmentsText parts)

def pathText (u : Url) : String := u.route.text

def credentialsText (u : Url) : String :=
  match u.password with
  | some password => u.username ++ ":" ++ password ++ "@"
  | none => if u.username = "" then "" else u.username ++ "@"

def authorityText (u : Url) : String :=
  match u.host with
  | none => ""
  | some host =>
    "//" ++ u.credentialsText ++ host.text ++
      match u.port with
      | some port => ":" ++ toString port
      | none => ""

def guardText (u : Url) : String := if u.guarded then "/." else ""

def queryText (u : Url) : String :=
  match u.query with
  | some query => "?" ++ query
  | none => ""

def fragmentText (u : Url) : String :=
  match u.fragment with
  | some fragment => "#" ++ fragment
  | none => ""

def target (u : Url) : String := u.pathText ++ u.queryText

def text (u : Url) : String :=
  u.scheme ++ ":" ++ u.authorityText ++ u.guardText ++ u.target ++ u.fragmentText

def withoutFragment (u : Url) : Url := { u with fragment := none }

def withoutCredentials (u : Url) : Url := { u with username := "", password := none }

end Url
end HopProbe
