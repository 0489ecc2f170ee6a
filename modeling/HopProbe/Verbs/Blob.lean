import HopProbe.Blob.Content
import HopProbe.Blob.Service

/-!
# BLOB

Reads or writes a blob.
-/

set_option autoImplicit false

namespace HopProbe.Verbs.Blob
open HopProbe.Text HopProbe.Blob

def unsupported (word : String) : UsageError :=
  .invalid .blob ("unsupported operation " ++ quote word ++ " (expected GET or PUT)")

def run (args : List String) (_ : Context) : Effect String := do
  let word ← Effect.check (argument .blob args 0 "operation")
  let name ← Effect.check (argument .blob args 1 "container")
  let blob ← Effect.check (argument .blob args 2 "blob")
  let endpoint ← Effect.check (argument .blob args 3 "endpoint")
  if word = "GET" then
    let container ← openContainer endpoint name
    container.create
    return contentText (← container.download blob)
  else if word = "PUT" then
    let value ← Effect.check (argument .blob args 4 "value")
    let container ← openContainer endpoint name
    container.create
    container.delete blob
    return "Wrote " ++ (← container.upload blob (Utf8.bytes value))
  else Effect.check (.error (unsupported word))

def probe : Probe where
  verb := .blob
  usage := "GET <container> <blob> <endpoint> | PUT <container> <blob> <endpoint> <value>"
  forwards := Probe.never
  run := run

end HopProbe.Verbs.Blob
