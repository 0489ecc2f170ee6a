import HopProbe.Url.Parser

/-!
# Changing parts of a URL

Each part that is put in is encoded for its place, so it cannot end the place
it was put into.
-/

set_option autoImplicit false

namespace HopProbe.Url
open HopProbe.Text

def segmentEscapes (kind : SchemeKind) : Percent.EscapeSet :=
  if kind.isSpecial then Percent.specialSegment else Percent.segment

def withoutEmptyEnd (segments : List (List Char)) : List (List Char) :=
  if 1 < segments.length ∧ segments.getLast? = some [] then segments.dropLast else segments

/-- Goes on to one more segment; an empty path has none yet. -/
def pushSegment (kind : SchemeKind) (segments : List (List Char)) (segment : String) :
    List (List Char) :=
  if segment = "." ∨ segment = ".." then segments
  else
    let start : Way := ⟨if segments = [[]] then [] else segments, false⟩
    (start.take kind (Percent.encode (segmentEscapes kind)) true segment.toList).segments

def push? (u : Url) (more : List String) : Option Url :=
  match u.route with
  | .opaquePath _ => none
  | .segments parts =>
    some { u with route := .segments (more.foldl (pushSegment u.kind) (withoutEmptyEnd parts)) }

def setQuery (u : Url) (query : Option String) : Url :=
  { u with query := query.map fun q => queryOf u.kind (counted q.toList) }

def takesCredentials (u : Url) : Bool := u.hasHost && u.scheme != "file"

/-- A name that is already the written one stays as it is. -/
def setUsername? (u : Url) (name : String) : Option Url :=
  if u.takesCredentials then
    some (if u.username = name then u
      else { u with username := encodedText Percent.userinfo name.toList })
  else none

def setPassword? (u : Url) (password : String) : Option Url :=
  if u.takesCredentials then
    some { u with password :=
      if password = "" then none else some (encodedText Percent.userinfo password.toList) }
  else none

/-- The segments behind an optional first slash, with all that would end a path encoded. -/
def pathSegments (kind : SchemeKind) (path : List Char) : List (List Char) :=
  match path with
  | [] => if kind.isSpecial then [[]] else []
  | c :: rest =>
    if kind.isSlash c then segmentsOf kind rest
    else if kind.isSpecial = false ∧ (c = '?' ∨ c = '#') then []
    else segmentsOf kind (c :: rest)

def setPath (u : Url) (path : String) : Url :=
  match u.route with
  | .opaquePath _ =>
    let cs := counted path.toList
    { u with route := .opaquePath (match cs with
      | '/' :: rest => ['%', '2', 'F'] ++ Percent.encode Percent.controls rest
      | cs => Percent.encode Percent.controls cs) }
  | .segments _ => { u with route := .segments (pathSegments u.kind (counted path.toList)) }

end HopProbe.Url
