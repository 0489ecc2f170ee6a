import HopProbe.Blob.Content
import HopProbe.Text.Quoted
import HopProbe.World.Effect

/-!
# FILE

Lists a directory, reads a file or writes one. That nothing is at a path is an
answer and no failure.
-/

set_option autoImplicit false

namespace HopProbe.Verbs.File
open HopProbe.Text

def unsupported (word : String) : UsageError :=
  .invalid .file
    ("unsupported operation " ++ quote word ++ " (expected LIST, READ or WRITE)")

def notFound (path : String) : String := "Path not found: " ++ path

def unlessMissing {α : Type} (path : String) (shown : α → String) :
    Except IoError α → Effect String
  | .ok a => return shown a
  | .error e => if e = .noEntry then return notFound path else Effect.fault (.io e)

def size : Node → Nat
  | .file content => content.length
  | .link target => target.length
  | .directory => 0

def entryLine (e : FileSystem.Entry) : String × String :=
  let name := Utf8.textLossy e.name
  match e.node with
  | .directory => (name, "DIR: " ++ name)
  | node => (name, "FILE: " ++ name ++ " (" ++ toString (size node) ++ " bytes)")

/-- By name, and by line where names are alike. -/
def precedes (a b : String × String) : Bool :=
  if a.1 = b.1 then decide (a.2 ≤ b.2) else decide (a.1 ≤ b.1)

def listing (entries : List FileSystem.Entry) : String :=
  String.intercalate "\n" (((entries.map entryLine).mergeSort precedes).map Prod.snd)

/-- The names that lead to a path's parent, or nothing if that is the place
where the path starts. A dot counts only at the start of a path. -/
def parentNames? (path : List UInt8) : Option (List FileName) :=
  let all := FileSystem.names path
  let kept := match all with
    | first :: rest =>
      if first = FileSystem.dot ∧ !FileSystem.isAbsolute path then
        first :: rest.filter (· ≠ FileSystem.dot)
      else all.filter (· ≠ FileSystem.dot)
    | [] => []
  match kept with
  | [] => none
  | [_] => if FileSystem.isAbsolute path then some [] else none
  | kept => some kept.dropLast

def parent? (path : List UInt8) : Option (List UInt8) :=
  (parentNames? path).map fun names =>
    (if FileSystem.isAbsolute path then [FileSystem.slash] else []) ++ joined [FileSystem.slash] names

/-- Whether the parent of a path is there; a path without one needs none. -/
def hasParent (files : FileSystem) (path : List UInt8) : Except IoError Bool :=
  match parent? path with
  | some parent => files.contains? parent
  | none => .ok true

def write (path content : String) : Effect String := do
  Effect.record (.file path)
  let files := (← get).files
  let place := Utf8.bytes path
  if ← Effect.ofExcept Fault.io (hasParent files place) then
    let files ← Effect.ofExcept Fault.io (files.writeFile place (Utf8.bytes content))
    modify fun w => { w with files }
    return "Wrote " ++ toString (Utf8.bytes content).length ++ " bytes to " ++ path
  else return notFound path

def list (path : String) : Effect String := do
  Effect.record (.file path)
  unlessMissing path listing ((← get).files.readDirectory (Utf8.bytes path))

def read (path : String) : Effect String := do
  Effect.record (.file path)
  unlessMissing path HopProbe.Blob.contentText ((← get).files.readFile (Utf8.bytes path))

def run (args : List String) (_ : Context) : Effect String := do
  let word ← Effect.check (argument .file args 0 "operation")
  let path ← Effect.check (argument .file args 1 "path")
  if word = "LIST" then list path
  else if word = "READ" then read path
  else if word = "WRITE" then write path (← Effect.check (argument .file args 2 "content"))
  else Effect.check (.error (unsupported word))

def probe : Probe where
  verb := .file
  usage := "LIST <dir> | READ <path> | WRITE <path> <content>"
  forwards := Probe.never
  run := run

end HopProbe.Verbs.File
