import HopProbe.Http.Date
import HopProbe.Http.Range
import HopProbe.Service.MediaType
import HopProbe.Service.Message
import HopProbe.Url.Percent
import HopProbe.World.FileSystem

/-!
# A site of files

A directory whose files can be fetched. No path leads out of it. A directory
inside is shown by its index, once its path ends with a slash. A request may
depend on when the files were written, and may ask for one part of a file.
-/

set_option autoImplicit false

namespace HopProbe.Service
open HopProbe.Text

structure Site where
  root : List UInt8
  deriving DecidableEq, Repr

namespace Site

def dropSlashes (cs : List Char) : List Char := cs.dropWhile (· == '/')

def below (bs : List UInt8) : Option (List FileName) :=
  if FileSystem.isAbsolute bs then none
  else if (FileSystem.names bs).contains FileSystem.dotDot then none
  else some ((FileSystem.names bs).filter (· ≠ FileSystem.dot))

def namesOf (path : List Char) : Option (List FileName) :=
  (Utf8.decode? (Url.Percent.decode (dropSlashes path))).bind fun cs => below (Utf8.encode cs)

def placeOf (site : Site) (names : List FileName) : List UInt8 :=
  names.foldl (fun place name => place ++ FileSystem.slash :: name) site.root

def isDirectory (files : FileSystem) (place : List UInt8) : Bool :=
  match files.stat place with
  | .ok .directory => true
  | _ => false

def indexName : FileName := Utf8.bytes "index.html"

def lastName (place : List UInt8) : FileName := (FileSystem.names place).getLastD []

def date? (headers : Http.Fields) (name : String) : Option Nat :=
  (headers.plain? name).bind Http.Date.parse?

/-- The status that answers in place of the file, where a condition on its age fails. -/
def refusal? (headers : Http.Fields) (written : Option Nat) : Option Nat :=
  if (date? headers "if-unmodified-since").any fun date => ! written.any (· ≤ date) then some 412
  else if (date? headers "if-modified-since").any fun date => written.any (· ≤ date) then some 304
  else none

def delivery (type : String) (content : List UInt8) : Option String → Response
  | none => .ofFile 200 type content
  | some range =>
    match Http.Range.parts? content.length range with
    | none => .ofFile 416 type []
    | some [part] => .ofFile 206 type (part.of content)
    | some _ => .ofFile 416 type (Utf8.bytes "Cannot serve multipart range requests")

def fileResponse (files : FileSystem) (headers : Http.Fields) (place : List UInt8) : Response :=
  match files.readFile place with
  | .ok content =>
    match refusal? headers files.written with
    | some status => .bare status
    | none =>
      delivery (mediaTypeOfName (Utf8.decodeLossy (lastName place))) content
        (headers.plain? "range")
  | .error e => if e = .noEntry ∨ e = .notDirectory then .notFound else .bare 500

def fetch (site : Site) (files : FileSystem) (headers : Http.Fields) (target : Target) : Response :=
  match namesOf target.path with
  | none => .notFound
  | some names =>
    let place := site.placeOf names
    if isDirectory files place then
      if target.path.getLast? == some '/' then
        fileResponse files headers (site.placeOf (names ++ [indexName]))
      else .redirect target.withSlash
    else fileResponse files headers place

def respond (site : Site) (files : FileSystem) (r : Request) : Response :=
  let response := site.fetch files r.headers (Target.ofText r.target)
  if r.method = "GET" then response
  else if r.method = "HEAD" then response.withoutBody
  else .methodNotAllowed "GET,HEAD"

end Site
end HopProbe.Service
