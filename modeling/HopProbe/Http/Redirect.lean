import HopProbe.Http.Message
import HopProbe.Text.Natural
import HopProbe.Url.Parser

/-!
# Responses that send a request elsewhere

A response of one of five statuses sends its request on to the place that it
names, if that can be read against the address of the request. Two of these
statuses make a GET of a POST, and one makes it of every method; the body is
then left behind. A request that goes to another host leaves its secrets behind.
-/

set_option autoImplicit false

namespace HopProbe.Http
open HopProbe.Text

structure Reference where
  scheme : Option (List Char)
  authority : Option (List Char)
  path : List Char
  query : Option (List Char)
  deriving DecidableEq, Repr

namespace Reference

def isMark (c : Char) : Bool :=
  ['-', '.', '_', '~', ':', '/', '?', '#', '[', ']', '@', '!', '$', '&', '\'', '(', ')', '*', '+',
    ',', ';', '='].contains c

def isSpelled : List Char → Bool
  | '%' :: a :: b :: rest => (hexValue? a).isSome && (hexValue? b).isSome && isSpelled rest
  | c :: rest => (c.isAlphanum || isMark c) && isSpelled rest
  | [] => true

def isBracket (c : Char) : Bool := c == '[' || c == ']'

def isSchemeName : List Char → Bool
  | [] => false
  | c :: cs => c.isAlpha && cs.all fun c => c.isAlphanum || ['+', '-', '.'].contains c

def ofParts (scheme : Option (List Char)) (rest : List Char) (query : Option (List Char)) :
    Reference :=
  match stripStart ['/', '/'] rest with
  | some rest => ⟨scheme, some (rest.takeWhile (· ≠ '/')), rest.dropWhile (· ≠ '/'), query⟩
  | none => ⟨scheme, none, rest, query⟩

/-- What a text refers to. A colon in front of the first slash ends the name of a scheme. -/
def split (text : List Char) : Option Reference :=
  let text := text.takeWhile (· ≠ '#')
  let (front, query) := match cutFirst '?' text with
    | some (front, query) => (front, some query)
    | none => (text, none)
  match cutFirst ':' (front.takeWhile (· ≠ '/')) with
  | none => some (ofParts none front query)
  | some (name, _) =>
    if isSchemeName name then some (ofParts (some name) (front.drop (name.length + 1)) query)
    else none

def read? (text : List Char) : Option Reference := do
  let reference ← split text
  if isSpelled text && !(reference.path ++ reference.query.getD []).any isBracket then
    some reference
  else none

def beside (base path : List Char) : List Char :=
  match cutLast '/' base with
  | some (front, _) => front ++ '/' :: path
  | none => path

/-- A reference as it is meant at a place: what it does not say is as it is there. -/
def against (base reference : Reference) : Reference :=
  if reference.scheme.isSome then reference
  else if reference.authority.isSome then { reference with scheme := base.scheme }
  else match reference.path with
    | [] => { base with query := reference.query.or base.query }
    | '/' :: _ => { reference with scheme := base.scheme, authority := base.authority }
    | path => ⟨base.scheme, base.authority, beside base.path path, reference.query⟩

def text (reference : Reference) : String :=
  String.ofList <| (reference.scheme.map (· ++ [':'])).getD [] ++
    (reference.authority.map ('/' :: '/' :: ·)).getD [] ++ reference.path ++
    (reference.query.map ('?' :: ·)).getD []

end Reference

def sendsElsewhere (status : Nat) : Bool := [301, 302, 303, 307, 308].contains status

/-- The text of the address that a response sends its request to. -/
def place? (r : Request) (response : Response) : Option String := do
  if sendsElsewhere response.status then
    let named ← (response.fields.values "location").head?
    let reference ← Reference.read? named.toList
    let base ← Reference.read? r.url.withoutFragment.text.toList
    let place := base.against reference
    if (place.authority.getD []).isEmpty || maxAddress < place.text.length then none
    else some place.text
  else none

def payload : List String :=
  ["content-type", "content-length", "content-encoding", "transfer-encoding"]

def secrets : List String :=
  ["authorization", "cookie", "cookie2", "proxy-authorization", "www-authenticate"]

/-- Whether a request is made anew, without its body, where a response sends it. -/
def leavesBody (method : Method) (status : Nat) : Bool :=
  status == 303 || ((status == 301 || status == 302) && method == .post)

def sameHost (u v : Url) : Bool :=
  u.host == v.host && u.port.or u.kind.defaultPort == v.port.or v.kind.defaultPort

def without (names : List String) (fields : Fields) : Fields :=
  fields.filter fun f => !names.contains f.name

/-- Where a request was sent before, unless that was said over an encrypted connection only. -/
def referred (before next : Url) (fields : Fields) : Fields :=
  if before.scheme = "https" ∧ next.scheme = "http" then fields
  else without ["referer"] fields ++
    [⟨"referer", before.withoutCredentials.withoutFragment.text⟩]

/-- A request on its way to the place that a response with a status sends it to. -/
def onward (r : Request) (status : Nat) (next : Url) : Request :=
  let leaves := leavesBody r.method status
  let fields := if leaves then without payload r.fields else r.fields
  let fields := if sameHost r.url next then fields else without secrets fields
  ⟨if leaves then .get else r.method, next, referred r.url next fields,
    if leaves then [] else r.body⟩

end HopProbe.Http
