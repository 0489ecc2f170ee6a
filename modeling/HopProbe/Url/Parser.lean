import HopProbe.Url.Basic

/-!
# Reading a URL

White space and controls around the text do not count, tabs and line breaks
nowhere. The parts are cut off one after the other: fragment, query, scheme,
credentials up to the last at sign, host, port, path.
-/

set_option autoImplicit false

namespace HopProbe.Url
open HopProbe.Text

def isEdgeBlank (c : Char) : Bool := c.toNat ≤ 0x20

def bare (cs : List Char) : List Char := dropEndWhile isEdgeBlank (cs.dropWhile isEdgeBlank)

def isSchemeChar (c : Char) : Bool := c.isAlphanum || c == '+' || c == '-' || c == '.'

def cutScheme (cs : List Char) : Option (String × List Char) :=
  match cs with
  | [] => none
  | c :: _ =>
    if c.isAlpha then
      match cutFirst ':' cs with
      | some (scheme, rest) =>
        if scheme.all isSchemeChar then some (String.ofList (scheme.map Char.toLower), rest) else none
      | none => none
    else none

def cutOff (sep : Char) (cs : List Char) : List Char × Option (List Char) :=
  match cutFirst sep cs with
  | some (before, after) => (before, some after)
  | none => (cs, none)

def encodedText (escaped : Percent.EscapeSet) (cs : List Char) : String :=
  String.ofList (Percent.encode escaped cs)

def queryOf (kind : SchemeKind) (cs : List Char) : String :=
  encodedText (if kind.isSpecial then Percent.specialQuery else Percent.query) cs

def credentialsOf (cs : List Char) : String × Option String :=
  match cutOff ':' cs with
  | (user, some (c :: cs)) =>
    (encodedText Percent.userinfo user, some (encodedText Percent.userinfo (c :: cs)))
  | (user, _) => (encodedText Percent.userinfo user, none)

/-- The credentials in front of the last at sign, and what follows it. -/
def cutCredentials (cs : List Char) : (String × Option String) × List Char :=
  match cutLast '@' cs with
  | none => (("", none), cs)
  | some (credentials, rest) => (credentialsOf credentials, rest)

def cutHost (inside : Bool) : List Char → List Char × List Char
  | [] => ([], [])
  | c :: cs =>
    if c = ':' ∧ inside = false then ([], c :: cs)
    else
      let (host, rest) := cutHost (if c = '[' then true else if c = ']' then false else inside) cs
      (c :: host, rest)

def hostOf (kind : SchemeKind) (cs : List Char) : Except ParseError Host :=
  match kind, cs with
  | .special _, [] => .error .emptyHost
  | .file, [] => .ok (.name "")
  | .plain, cs => Host.plain cs
  | _, cs => Host.special cs

/-- A port from its digits. Without digits, or with those of the default, there is none. -/
def portOf (kind : SchemeKind) (cs : List Char) : Except ParseError (Option Nat) :=
  match cs with
  | [] => .ok none
  | cs =>
    match readDigits 65536 .tooLarge 0 cs with
    | .error _ => .error .badPort
    | .ok n => .ok (if kind.defaultPort = some n then none else some n)

structure Authority where
  username : String
  password : Option String
  host : Host
  port : Option Nat

/-- The authority and what is left of the text. A lone at sign in front of
something is no authority. A backslash ends a port of any scheme. -/
def authorityOf (kind : SchemeKind) (followed : Bool) (cs : List Char) :
    Except ParseError (Authority × List Char) := do
  if cs = ['@'] ∧ followed then throw .emptyHost
  let ((username, password), rest) := cutCredentials cs
  let (hostText, rest) := cutHost false rest
  let host ← hostOf kind hostText
  match rest with
  | ':' :: rest =>
    if host.isEmpty then throw .emptyHost
    let digits := rest.takeWhile (· ≠ '\\')
    return (⟨username, password, host, ← portOf kind digits⟩, rest.drop digits.length)
  | _ =>
    if host.isEmpty ∧ (username ≠ "" ∨ password.isSome) then throw .emptyHost
    return (⟨username, password, host, none⟩, [])

def routeBehind (kind : SchemeKind) (cs : List Char) : Route :=
  match cs with
  | [] => .segments (if kind.isSpecial then [[]] else [])
  | c :: rest => .segments (segmentsOf kind (if kind.isSlash c then rest else c :: rest))

structure Tail where
  query : Option String
  fragment : Option String

def withAuthority (scheme : String) (tail : Tail) (cs : List Char) : Except ParseError Url := do
  let kind := SchemeKind.of scheme
  let authorityText := cs.takeWhile (! kind.isSlash ·)
  let pathText := cs.drop authorityText.length
  let followed := !pathText.isEmpty || tail.query.isSome || tail.fragment.isSome
  let (authority, left) ← authorityOf kind followed authorityText
  return {
    scheme, username := authority.username, password := authority.password
    host := some authority.host, port := authority.port, guarded := false
    route := routeBehind kind (left ++ pathText), query := tail.query, fragment := tail.fragment }

/-- Whether a path would read as a host if nothing stood before it. -/
def readsAsHost : Route → Bool
  | .segments ([] :: _ :: _) => true
  | _ => false

def withoutHost (scheme : String) (tail : Tail) (route : Route) : Url :=
  { scheme, username := "", password := none, host := none, port := none
    guarded := readsAsHost route, route, query := tail.query, fragment := tail.fragment }

def localHost : Host := .name "localhost"

def emptyHost : Host := .name ""

/-- A file on a host. A path that begins with a drive has no host. -/
def fileOn (host : Host) (tail : Tail) (path : List Char) : Url :=
  let way := wayOf .file path
  { scheme := "file", username := "", password := none
    host := some (if host = localHost ∨ way.metDrive then emptyHost else host), port := none
    guarded := false, route := .segments way.segments, query := tail.query
    fragment := tail.fragment }

/-- Behind two slashes stands a host, unless it is a drive. The path is taken
from the text as it was typed. -/
def fileUrl (tail : Tail) (typed : List Char) : Except ParseError Url :=
  let isSlash := SchemeKind.file.isSlash
  let cs := counted typed
  match cs with
  | c :: d :: rest =>
    if isSlash c ∧ isSlash d then
      let hostText := rest.takeWhile (! isSlash ·)
      if (driveLetter? hostText).isSome then .ok (fileOn emptyHost tail (skipCounted 2 typed))
      else do
        let host ← hostOf .file hostText
        return fileOn host tail (skipCounted (hostText.length + 3) typed)
    else .ok (fileOn emptyHost tail (if isSlash c then skipCounted 1 typed else typed))
  | [c] => .ok (fileOn emptyHost tail (if isSlash c then [] else [c]))
  | [] => .ok (fileOn emptyHost tail [])

def bodyOf (scheme : String) (tail : Tail) (typed : List Char) : Except ParseError Url :=
  let cs := counted typed
  match SchemeKind.of scheme with
  | .file => fileUrl tail typed
  | .special _ =>
    withAuthority scheme tail (cs.dropWhile (SchemeKind.of scheme).isSlash)
  | .plain =>
    match cs with
    | '/' :: '/' :: rest => withAuthority scheme tail rest
    | '/' :: rest => .ok (withoutHost scheme tail (.segments (segmentsOf .plain rest)))
    | cs => .ok (withoutHost scheme tail (.opaquePath (Percent.encode Percent.controls cs)))

def parse (s : String) : Except ParseError Url :=
  let (body, fragment) := cutOff '#' (bare s.toList)
  let (body, query) := cutOff '?' body
  match cutScheme (counted body) with
  | none => .error .noScheme
  | some (scheme, rest) =>
    let kind := SchemeKind.of scheme
    let typed := skipCounted ((counted body).length - rest.length) body
    bodyOf scheme
      ⟨query.map (queryOf kind ∘ counted), fragment.map (encodedText Percent.fragment ∘ counted)⟩
      typed

end HopProbe.Url
