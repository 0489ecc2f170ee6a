import HopProbe.Settings.Basic
import HopProbe.Toml.Document

/-!
# Settings in a table

A key that is not there leaves its default; keys without a meaning are
ignored. A port has sixteen bits, the other numbers have sixty-four.
-/

set_option autoImplicit false

namespace HopProbe.Settings
open HopProbe.Text HopProbe.Toml

def asText? : Value → Option String
  | .string text => some text
  | _ => none

def asNumber? (bound : Nat) : Value → Option Nat
  | .integer (.ofNat n) => if n < bound then some n else none
  | _ => none

def field? {α : Type} (t : Table) (name : String) (read : Value → Option α) (otherwise : α) :
    Option α :=
  match t.get? name with
  | some value => read value
  | none => some otherwise

def ofTable? (t : Table) : Option Settings := do
  let bind ← field? t "bind" asText? default.bind
  let port ← field? t "port" (asNumber? (twoTo 16)) default.port
  let stepSeconds ← field? t "step_timeout_secs" (asNumber? (twoTo 64)) default.stepSeconds
  let connectSeconds ← field? t "connect_timeout_secs" (asNumber? (twoTo 64)) default.connectSeconds
  let maxBody ← field? t "max_body_bytes" (asNumber? (twoTo 64)) default.maxBody
  let siteDirectory ←
    field? t "static_dir" (fun value => (asText? value).map some) default.siteDirectory
  some { bind, port, stepSeconds, connectSeconds, maxBody, siteDirectory }

def ofText? (text : List Char) : Option Settings := (Table.ofText? text).bind ofTable?

end HopProbe.Settings
