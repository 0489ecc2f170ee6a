import HopProbe.Text.Natural

/-!
# Values on the command line

Each value has a slot, which can be filled once. What is wrong with the words
of a command line is said about the slot or the word at fault.
-/

set_option autoImplicit false

namespace HopProbe.CommandLine
open HopProbe.Text

inductive Slot where
  | config
  | bind
  | port
  | script
  deriving DecidableEq, Repr

def Slot.shown : Slot → String
  | .config => "--config <CONFIG>"
  | .bind => "--bind <BIND>"
  | .port => "--port <PORT>"
  | .script => "<SCRIPT>"

inductive Refusal where
  | unexpected (word : String)
  | unknownCommand (word : String)
  | needlessValue (value option : String)
  | noValue (slot : Slot)
  | repeated (slot : Slot)
  | badValue (slot : Slot) (text reason : String)
  /-- A command without something that it needs. -/
  | incomplete
  deriving DecidableEq, Repr

def Refusal.message : Refusal → String
  | .unexpected word => "unexpected argument '" ++ word ++ "' found"
  | .unknownCommand word => "unrecognized subcommand '" ++ word ++ "'"
  | .needlessValue value option =>
    "unexpected value '" ++ value ++ "' for '" ++ option ++ "' found; no more were expected"
  | .noValue slot => "a value is required for '" ++ slot.shown ++ "' but none was supplied"
  | .repeated slot => "the argument '" ++ slot.shown ++ "' cannot be used multiple times"
  | .badValue slot text reason =>
    "invalid value '" ++ text ++ "' for '" ++ slot.shown ++ "': " ++ reason
  | .incomplete => "the following required arguments were not provided:"

structure Values where
  config : Option String
  bind : Option String
  port : Option Nat
  script : Option String
  deriving DecidableEq, Repr

namespace Values

def empty : Values := ⟨none, none, none, none⟩

def has (v : Values) : Slot → Bool
  | .config => v.config.isSome
  | .bind => v.bind.isSome
  | .port => v.port.isSome
  | .script => v.script.isSome

def readPath (slot : Slot) (text : String) : Except Refusal String :=
  if text = "" then .error (.noValue slot) else .ok text

/-- The number of a port. Any number of 64 bits is a number, but not all are ports. -/
def readPort (text : String) : Except Refusal Nat :=
  match readInteger (twoTo 63) text.toList with
  | .error fault => .error (.badValue .port text fault.message)
  | .ok n =>
    if 0 ≤ n ∧ n < twoTo 16 then .ok n.toNat
    else .error (.badValue .port text (toString n ++ " is not in 0..=65535"))

def fill (v : Values) (slot : Slot) (text : String) : Except Refusal Values :=
  if v.has slot then .error (.repeated slot)
  else match slot with
    | .config => (readPath .config text).map fun path => { v with config := some path }
    | .bind => .ok { v with bind := some text }
    | .port => (readPort text).map fun port => { v with port := some port }
    | .script => (readPath .script text).map fun path => { v with script := some path }

end Values
end HopProbe.CommandLine
