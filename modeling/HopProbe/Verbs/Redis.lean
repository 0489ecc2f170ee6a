import HopProbe.KeyValue.Session

/-!
# REDIS

Reads or writes a key of a key-value store. A key without a value reads as
empty.
-/

set_option autoImplicit false

namespace HopProbe.Verbs.Redis
open HopProbe.Text

def unsupported (word : String) : UsageError :=
  .invalid .redis ("unsupported operation " ++ quote word ++ " (expected GET or SET)")

def run (args : List String) (_ : Context) : Effect String := do
  let word ← Effect.check (argument .redis args 0 "operation")
  let key ← Effect.check (argument .redis args 1 "key")
  if word = "GET" then
    let endpoint ← Effect.check (argument .redis args 2 "endpoint")
    let session ← KeyValue.start endpoint
    return "GET: " ++ (← KeyValue.read session key).getD ""
  else if word = "SET" then
    let value ← Effect.check (argument .redis args 2 "value")
    let endpoint ← Effect.check (argument .redis args 3 "endpoint")
    let session ← KeyValue.start endpoint
    KeyValue.write session key value
    return "SET: " ++ key ++ "=" ++ value
  else Effect.check (.error (unsupported word))

def probe : Probe where
  verb := .redis
  usage := "GET <key> <endpoint> | SET <key> <value> <endpoint>"
  forwards := Probe.never
  run := run

end HopProbe.Verbs.Redis
