import HopProbe.Proofs.World.Change
import HopProbe.Verbs.Builtin
import Mathlib.Tactic.SplitIfs

/-!
# Reading a line and then performing it

Verb by verb: what a line does is to read its arguments to their end, with all
their checks, and then to perform the action that they ask for. Three verbs look
at an argument that only one of their operations has behind the choice of the
operation; it is still looked at before anything is done.
-/

set_option autoImplicit false

namespace HopProbe
open HopProbe.Text Effect

namespace Effect

variable {α β : Type}

@[simp] theorem check_ok (a : α) : check (.ok a) = pure a := rfl

theorem check_bind (x : Except UsageError α) (f : α → Except UsageError β) :
    check (x >>= f) = check x >>= fun a => check (f a) := by
  cases x with
  | error e => rfl
  | ok a => exact (pure_bind a fun a => check (f a)).symm

theorem check_map (x : Except UsageError α) (f : α → β) :
    check (x.map f) = check x >>= fun a => pure (f a) := by
  cases x with
  | error e => rfl
  | ok a => rfl

end Effect

/-- A way to see a verb: what it reads of its arguments, and what it does about that. -/
structure Probe.Phases (p : Probe) (α : Type) where
  read : List String → Except UsageError α
  perform : α → Context → Effect String
  run_eq : ∀ args context, p.run args context = check (read args) >>= fun a => perform a context

namespace Probe.Phases

variable {α : Type} {p : Probe} (phases : p.Phases α) {args : List String}
include phases

theorem execute_of_read_error {e : UsageError} (h : phases.read args = .error e)
    (context : Context) (w : World) : p.execute args context w = (.failed (.usage e), w) := by
  rw [execute, phases.run_eq, h]
  rfl

theorem execute_of_read_ok {action : α} (h : phases.read args = .ok action) (context : Context)
    (w : World) : p.execute args context w = (phases.perform action context).outcome w := by
  rw [execute, phases.run_eq, h, check_ok, pure_bind]

end Probe.Phases

namespace Verbs

def Http.phases : Http.probe.Phases Http.Action := ⟨Http.read, Http.perform, fun _ _ => rfl⟩

def Tcp.phases : Tcp.probe.Phases Tcp.Action := ⟨Tcp.read, Tcp.perform, fun _ _ => rfl⟩

def Sql.phases : Sql.probe.Phases Sql.Action := ⟨Sql.read, Sql.perform, fun _ _ => rfl⟩

def IpLookup.phases : IpLookup.probe.Phases String :=
  ⟨IpLookup.read, IpLookup.perform, fun _ _ => rfl⟩

def NsLookup.phases : NsLookup.probe.Phases NsLookup.Action :=
  ⟨NsLookup.read, NsLookup.perform, fun _ _ => rfl⟩

def Info.phases : Info.probe.Phases Info.Action where
  read args := .ok (Info.read args)
  perform := Info.perform
  run_eq args context := by rw [check_ok, pure_bind]; rfl

def Inbound.headerPhases : Inbound.headerProbe.Phases (Option String) where
  read args := .ok args.head?
  perform name context := pure (Inbound.headerReport name context.request)
  run_eq args context := by rw [check_ok, pure_bind]; rfl

def Inbound.connectionPhases : Inbound.connectionProbe.Phases Bool where
  read args := .ok (args.head? == some "IP")
  perform ipOnly context := pure (Inbound.connectionReport ipOnly context.request.remote)
  run_eq args context := by rw [check_ok, pure_bind]; rfl

namespace Blob
open HopProbe.Blob

inductive Operation where
  | get
  | put (value : String)
  deriving DecidableEq, Repr

structure Action where
  operation : Operation
  container : String
  blob : String
  endpoint : String
  deriving DecidableEq, Repr

def readOperation (args : List String) (word : String) : Except UsageError Operation :=
  if word = "GET" then .ok .get
  else if word = "PUT" then (argument .blob args 4 "value").map .put
  else .error (unsupported word)

def read (args : List String) : Except UsageError Action := do
  let word ← argument .blob args 0 "operation"
  let container ← argument .blob args 1 "container"
  let blob ← argument .blob args 2 "blob"
  let endpoint ← argument .blob args 3 "endpoint"
  return ⟨← readOperation args word, container, blob, endpoint⟩

def perform (action : Action) (_ : Context) : Effect String := do
  let container ← openContainer action.endpoint action.container
  container.create
  match action.operation with
  | .get => return contentText (← container.download action.blob)
  | .put value =>
    container.delete action.blob
    return "Wrote " ++ (← container.upload action.blob (Utf8.bytes value))

theorem run_eq (args : List String) (context : Context) :
    run args context = check (read args) >>= fun action => perform action context := by
  simp only [run, read, check_bind, bind_assoc, readOperation]
  refine bind_congr fun word => bind_congr fun container => bind_congr fun blob =>
    bind_congr fun endpoint => ?_
  split_ifs
  · rfl
  · simp only [check_map, bind_assoc, pure_bind]
    rfl
  · rfl

def phases : probe.Phases Action := ⟨read, perform, run_eq⟩

end Blob

namespace Redis

inductive Operation where
  | get
  | set (value : String)
  deriving DecidableEq, Repr

structure Action where
  operation : Operation
  key : String
  endpoint : String
  deriving DecidableEq, Repr

def readOperation (args : List String) (key word : String) : Except UsageError Action :=
  if word = "GET" then (argument .redis args 2 "endpoint").map fun endpoint => ⟨.get, key, endpoint⟩
  else if word = "SET" then do
    let value ← argument .redis args 2 "value"
    let endpoint ← argument .redis args 3 "endpoint"
    return ⟨.set value, key, endpoint⟩
  else .error (unsupported word)

def read (args : List String) : Except UsageError Action := do
  let word ← argument .redis args 0 "operation"
  let key ← argument .redis args 1 "key"
  readOperation args key word

def perform (action : Action) (_ : Context) : Effect String := do
  let session ← KeyValue.start action.endpoint
  match action.operation with
  | .get => return "GET: " ++ (← KeyValue.read session action.key).getD ""
  | .set value =>
    KeyValue.write session action.key value
    return "SET: " ++ action.key ++ "=" ++ value

theorem run_eq (args : List String) (context : Context) :
    run args context = check (read args) >>= fun action => perform action context := by
  simp only [run, read, check_bind, bind_assoc, readOperation]
  refine bind_congr fun word => bind_congr fun key => ?_
  split_ifs
  · simp only [check_map, bind_assoc, pure_bind]
    rfl
  · simp only [check_bind, bind_assoc]
    refine bind_congr fun value => bind_congr fun endpoint => ?_
    exact (pure_bind _ _).symm
  · rfl

def phases : probe.Phases Action := ⟨read, perform, run_eq⟩

end Redis

namespace File

inductive Operation where
  | list
  | read
  | write (content : String)
  deriving DecidableEq, Repr

structure Action where
  operation : Operation
  path : String
  deriving DecidableEq, Repr

def readOperation (args : List String) (word : String) : Except UsageError Operation :=
  if word = "LIST" then .ok .list
  else if word = "READ" then .ok .read
  else if word = "WRITE" then (argument .file args 2 "content").map .write
  else .error (unsupported word)

def readArgs (args : List String) : Except UsageError Action := do
  let word ← argument .file args 0 "operation"
  let path ← argument .file args 1 "path"
  return ⟨← readOperation args word, path⟩

def perform (action : Action) (_ : Context) : Effect String :=
  match action.operation with
  | .list => list action.path
  | .read => read action.path
  | .write content => write action.path content

theorem run_eq (args : List String) (context : Context) :
    run args context = check (readArgs args) >>= fun action => perform action context := by
  simp only [run, readArgs, check_bind, bind_assoc, readOperation]
  refine bind_congr fun word => bind_congr fun path => ?_
  split_ifs
  · rfl
  · rfl
  · simp only [check_map, bind_assoc, pure_bind]
    rfl
  · rfl

def phases : probe.Phases Action := ⟨readArgs, perform, run_eq⟩

end File

end Verbs
end HopProbe
