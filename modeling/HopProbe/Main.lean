import HopProbe.CommandLine.Program

/-!
# The command line

Brings the standard input, the files that the words name and the usual
settings file into a world, and prints how the program ends. No sockets are
opened here: peers do not answer, and a service is only announced.
-/

set_option autoImplicit false

namespace HopProbe.Main
open HopProbe

/-- A stream to its end, behind what was read before. -/
partial def readAll (stream : IO.FS.Stream) (taken : ByteArray) : IO ByteArray := do
  let piece ← stream.read 65536
  if piece.isEmpty then return taken else readAll stream (taken ++ piece)

def fileContent? (path : String) : IO (Option (List UInt8)) := do
  try
    let content ← IO.FS.readBinFile path
    return some content.toList
  catch _ => return none

/-- The file system with one more file, where it is on this machine. -/
def withFile (files : FileSystem) (path : String) : IO FileSystem := do
  match ← fileContent? path with
  | none => return files
  | some content =>
    let place := Text.Utf8.bytes path
    let names := files.startOf place ++ FileSystem.names place
    return (files.makeDirectories [] names.dropLast).offer names (.file content)

def environment : List String → IO Environment
  | [] => return []
  | name :: names => do
    match ← IO.getEnv name with
    | some value => return (Text.Utf8.bytes name, Text.Utf8.bytes value) :: (← environment names)
    | none => environment names

def machine : IO Machine := do
  let name := (← fileContent? "/proc/sys/kernel/hostname").getD []
  let counters ← fileContent? "/proc/net/dev"
  return ⟨.ok (name.filter (· != 10)), .ok [], counters.bind Text.Utf8.text?⟩

def isolated (files : FileSystem) (environment : Environment) (machine : Machine) :
    World where
  files := files
  environment := environment
  peers := []
  listeners := []
  security := fun _ _ => .plain
  storeAddress := ⟨.v4 0 0 0 0, 0⟩
  store := .empty
  conduct := fun _ => .answers
  hosts := []
  nameServer := .v4 0 0 0 0
  zone := []
  queryTime := 0
  answers := []
  machine := machine
  events := []

def world (words : List String) : IO World := do
  let environment ← environment ["HOME", "XDG_CONFIG_HOME"]
  let named := words ++ ((Settings.usualPath? environment).bind Text.Utf8.text?).toList
  let files ← named.foldlM withFile (FileSystem.empty [Text.Utf8.bytes "here"])
  return isolated files environment (← machine)

end HopProbe.Main

open HopProbe in
def main (words : List String) : IO UInt32 := do
  let input ← if words.contains "-" then Main.readAll (← IO.getStdin) .empty else pure .empty
  let (ending, _) := Program.run (fun _ => 0) words input.toList (← Main.world words)
  IO.print ending.output
  if let some complaint := ending.complaint? then IO.eprintln complaint
  if let .serving address _ := ending then IO.eprintln ("service for " ++ address)
  return ending.exitCode.toUInt32
