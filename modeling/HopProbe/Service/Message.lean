import HopProbe.Http.Header
import HopProbe.Net.SocketAddress
import HopProbe.Text.Utf8

/-!
# Requests to the service and its responses

A body arrives in pieces and may break off. The target of a request is a path
with a query behind it, or a whole URL that has them; a fragment is no part of
either.
-/

set_option autoImplicit false

namespace HopProbe.Service
open HopProbe.Text

structure RawField where
  name : String
  value : List UInt8
  deriving DecidableEq, Repr

structure Request where
  method : String
  target : String
  fields : List RawField
  chunks : List (List UInt8)
  /-- What broke the body off behind its last piece. -/
  broken : Option String
  remote : Option SocketAddress
  deriving DecidableEq, Repr

structure Response where
  status : Nat
  contentType : Option String
  /-- The methods that are allowed, where another was used. -/
  allow : Option String
  location : Option String
  body : List UInt8
  deriving DecidableEq, Repr

/-- The headers in small letters, brought together by name, with damage to UTF-8 shown as U+FFFD. -/
def Request.headers (r : Request) : Http.Fields :=
  Http.Fields.grouped (r.fields.map fun f => ⟨lower f.name, Utf8.textLossy f.value⟩)

def Request.contentType? (r : Request) : Option String := r.headers.plain? "content-type"

structure Target where
  /-- Scheme and authority, where the target is a whole URL. -/
  origin : List Char
  path : List Char
  query : Option (List Char)
  deriving DecidableEq, Repr

namespace Target

def withoutFragment (cs : List Char) : List Char := ((cutFirst '#' cs).map Prod.fst).getD cs

def endsAuthority (c : Char) : Bool := c == '/' || c == '?'

def originLength : List Char → Nat
  | [] => 0
  | ':' :: '/' :: '/' :: rest => 3 + (rest.takeWhile (! endsAuthority ·)).length
  | _ :: rest => 1 + originLength rest

def everything : Target := ⟨[], ['*'], none⟩

def ofText (text : String) : Target :=
  if text = "*" then everything else
  let cs := withoutFragment text.toList
  let length := if cs.head? == some '/' then 0 else originLength cs
  let rest := cs.drop length
  match cutFirst '?' rest with
  | some (path, query) => ⟨cs.take length, if path.isEmpty then ['/'] else path, some query⟩
  | none => ⟨cs.take length, if rest.isEmpty then ['/'] else rest, none⟩

/-- The same target with a slash behind its path. -/
def withSlash (t : Target) : String :=
  String.ofList (t.origin ++ t.path ++ '/' :: (match t.query with
    | some query => '?' :: query
    | none => []))

end Target

def Request.path (r : Request) : String := String.ofList (Target.ofText r.target).path

namespace Response

def bare (status : Nat) : Response := ⟨status, none, none, none, []⟩

def plainText (status : Nat) (text : String) : Response :=
  ⟨status, some "text/plain; charset=utf-8", none, none, Utf8.bytes text⟩

def ofFile (status : Nat) (type : String) (content : List UInt8) : Response :=
  ⟨status, some type, none, none, content⟩

def notFound : Response := bare 404

def methodNotAllowed (allowed : String) : Response := { bare 405 with allow := some allowed }

def redirect (location : String) : Response := { bare 307 with location := some location }

def withoutBody (r : Response) : Response := { r with body := [] }

end Response
end HopProbe.Service
