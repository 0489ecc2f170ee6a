import HopProbe.Proofs.Verbs.Reading
import HopProbe.Proofs.World.Failure

/-!
# Misuse is found before anything is done

Verb by verb: whatever is performed once the arguments of a line are read stops
at a fault or for want of an answer, never at a misuse. So a step that fails by
misuse has only read its arguments: it leaves the world as it was, and would
fail in the same way in any other world.
-/

set_option autoImplicit false

namespace HopProbe
open Effect

namespace Http

theorem noMisuse_settle (first : Url) (hops : Nat) (r : Request) (reply : Reply) :
    NoMisuse (settle first hops r reply) := by
  induction hops generalizing r reply with
  | zero =>
    cases reply with
    | closed => exact noMisuse_fault _
    | silent => exact noMisuse_unanswered
    | response response =>
      rw [settle]
      split
      · exact noMisuse_pure _
      · exact noMisuse_fault _
      · exact noMisuse_fault _
  | succ hops ih =>
    cases reply with
    | closed => exact noMisuse_fault _
    | silent => exact noMisuse_unanswered
    | response response =>
      rw [settle]
      split
      · exact noMisuse_pure _
      · exact noMisuse_fault _
      · next next _ =>
        dsimp only
        split
        · exact noMisuse_bind noMisuse_get fun w => noMisuse_bind (noMisuse_set _) fun _ => ih _ _
        · exact noMisuse_fault _

theorem noMisuse_send (r : Request) : NoMisuse (send r) :=
  noMisuse_bind noMisuse_get fun _ => noMisuse_bind (noMisuse_set _) fun _ =>
    noMisuse_settle _ _ _ _

theorem noMisuse_received {α : Type} (r : Request) (a : Option α) : NoMisuse (received r a) := by
  cases a with
  | none => exact noMisuse_fault _
  | some a => exact noMisuse_pure a

end Http

namespace Blob.Container

theorem noMisuse_exchange (operation : String) (accepted : Nat → Bool) (method : Http.Method)
    (url : Except EndpointError Url) (fields : Http.Fields) (body : List UInt8) :
    NoMisuse (exchange operation accepted method url fields body) := by
  refine noMisuse_bind (noMisuse_ofExcept _ _) fun url => ?_
  refine noMisuse_bind (noMisuse_ofExcept _ _) fun request => ?_
  refine noMisuse_bind (Http.noMisuse_send request) fun answer => ?_
  dsimp only
  split
  · exact noMisuse_pure _
  · exact noMisuse_fault _

variable (c : Container)

theorem noMisuse_create : NoMisuse c.create :=
  noMisuse_bind (noMisuse_exchange _ _ _ _ _ _) fun _ => noMisuse_pure _

theorem noMisuse_download (blob : String) : NoMisuse (c.download blob) :=
  noMisuse_bind (noMisuse_exchange _ _ _ _ _ _) fun _ => Http.noMisuse_received _ _

theorem noMisuse_delete (blob : String) : NoMisuse (c.delete blob) :=
  noMisuse_bind (noMisuse_exchange _ _ _ _ _ _) fun _ => noMisuse_pure _

theorem noMisuse_upload (blob : String) (content : List UInt8) : NoMisuse (c.upload blob content) :=
  noMisuse_bind (noMisuse_exchange _ _ _ _ _ _) fun _ => noMisuse_pure _

end Blob.Container

namespace KeyValue

theorem noMisuse_connect (place : Place) : NoMisuse (connect place) := by
  cases place with
  | network host port =>
    refine noMisuse_bind (noMisuse_record _) fun _ => ?_
    exact noMisuse_bind noMisuse_get fun w => noMisuse_ofExcept _ _
  | encrypted host port unchecked =>
    refine noMisuse_bind (noMisuse_record _) fun _ => noMisuse_bind noMisuse_get fun w => ?_
    refine noMisuse_bind (noMisuse_ofExcept _ _) fun _ => ?_
    split
    · exact noMisuse_fault _
    · exact noMisuse_ofExcept _ _
  | socket path => exact noMisuse_bind noMisuse_get fun w => noMisuse_fault _

theorem noMisuse_await (conduct : Conduct) : NoMisuse (await conduct) := by
  cases conduct with
  | answers => exact noMisuse_pure _
  | loses applied loss =>
    cases loss with
    | silence => exact noMisuse_unanswered
    | ending | breakage => exact noMisuse_fault _

theorem noMisuse_start (endpoint : String) : NoMisuse (start endpoint) := by
  refine noMisuse_bind (noMisuse_ofExcept _ _) fun target => ?_
  refine noMisuse_bind (noMisuse_connect _) fun _ => noMisuse_bind noMisuse_get fun w => ?_
  refine noMisuse_bind (noMisuse_await _) fun _ => ?_
  exact noMisuse_bind (noMisuse_ofExcept _ _) fun _ => noMisuse_pure _

theorem noMisuse_read (session : StoreSession) (key : String) : NoMisuse (read session key) := by
  refine noMisuse_bind (noMisuse_record _) fun _ => noMisuse_bind noMisuse_get fun w => ?_
  refine noMisuse_bind (noMisuse_await _) fun _ => ?_
  exact noMisuse_bind (noMisuse_ofExcept _ _) fun _ => noMisuse_pure _

theorem noMisuse_write (session : StoreSession) (key value : String) :
    NoMisuse (write session key value) := by
  refine noMisuse_bind (noMisuse_record _) fun _ => noMisuse_bind noMisuse_get fun w => ?_
  have last (conduct : Conduct) (permitted : Except String Unit) : NoMisuse (do
      await conduct
      ofExcept Fault.keyValue permitted) :=
    noMisuse_bind (noMisuse_await conduct) fun _ => noMisuse_ofExcept _ _
  dsimp only
  split
  · exact noMisuse_bind (noMisuse_set _) fun _ => last _ _
  · exact last _ _

end KeyValue

namespace Verbs

theorem Http.noMisuse_perform (action : Http.Action) (context : Context) :
    NoMisuse (Http.perform action context) := by
  refine noMisuse_bind (noMisuse_ofExcept _ _) fun r => ?_
  dsimp only
  split
  · exact (noMisuse_unanswered : NoMisuse (throw .unanswered : Effect String))
  · refine noMisuse_bind (HopProbe.Http.noMisuse_send r) fun answer => ?_
    obtain ⟨answered, response⟩ := answer
    dsimp only
    split
    · exact HopProbe.Http.noMisuse_received _ _
    · exact noMisuse_pure _

theorem Tcp.noMisuse_perform (action : Tcp.Action) (context : Context) :
    NoMisuse (Tcp.perform action context) := by
  refine noMisuse_bind (noMisuse_record _) fun _ => noMisuse_bind noMisuse_get fun w => ?_
  exact noMisuse_bind (noMisuse_ofExcept _ _) fun _ => noMisuse_pure _

theorem Blob.noMisuse_perform (action : Blob.Action) (context : Context) :
    NoMisuse (Blob.perform action context) := by
  have opened : NoMisuse (HopProbe.Blob.openContainer action.endpoint action.container) :=
    noMisuse_bind (noMisuse_ofExcept _ _) fun _ => noMisuse_pure _
  refine noMisuse_bind opened fun container => noMisuse_bind container.noMisuse_create fun _ => ?_
  cases action.operation with
  | get => exact noMisuse_bind (container.noMisuse_download _) fun _ => noMisuse_pure _
  | put value =>
    refine noMisuse_bind (container.noMisuse_delete _) fun _ => ?_
    exact noMisuse_bind (container.noMisuse_upload _ _) fun _ => noMisuse_pure _

theorem File.noMisuse_unlessMissing {α : Type} (path : String) (shown : α → String)
    (result : Except IoError α) : NoMisuse (File.unlessMissing path shown result) := by
  cases result with
  | ok a => exact noMisuse_pure _
  | error e =>
    unfold File.unlessMissing
    dsimp only
    split
    · exact noMisuse_pure _
    · exact noMisuse_fault _

theorem File.noMisuse_perform (action : File.Action) (context : Context) :
    NoMisuse (File.perform action context) := by
  obtain ⟨operation, path⟩ := action
  cases operation with
  | list | read =>
    refine noMisuse_bind (noMisuse_record _) fun _ => noMisuse_bind noMisuse_get fun w => ?_
    exact noMisuse_unlessMissing _ _ _
  | write content =>
    refine noMisuse_bind (noMisuse_record _) fun _ => noMisuse_bind noMisuse_get fun w => ?_
    refine noMisuse_bind (noMisuse_ofExcept _ _) fun there => ?_
    split
    · refine noMisuse_bind (noMisuse_ofExcept _ _) fun files => ?_
      exact noMisuse_bind (noMisuse_modify _) fun _ => noMisuse_pure _
    · exact noMisuse_pure _

theorem Redis.noMisuse_perform (action : Redis.Action) (context : Context) :
    NoMisuse (Redis.perform action context) := by
  refine noMisuse_bind (KeyValue.noMisuse_start _) fun session => ?_
  cases action.operation with
  | get => exact noMisuse_bind (KeyValue.noMisuse_read _ _) fun _ => noMisuse_pure _
  | set value => exact noMisuse_bind (KeyValue.noMisuse_write _ _ _) fun _ => noMisuse_pure _

theorem Sql.noMisuse_perform (action : Sql.Action) (context : Context) :
    NoMisuse (Sql.perform action context) := by
  have asked (path query : String) : NoMisuse (Sql.ask path query) := by
    refine noMisuse_bind (noMisuse_record _) fun _ => noMisuse_bind noMisuse_get fun w => ?_
    split
    · exact noMisuse_fault _
    · refine noMisuse_bind (noMisuse_modify _) fun _ => ?_
      refine noMisuse_bind (noMisuse_ofExcept _ _) fun result => ?_
      split
      · exact noMisuse_fault _
      · exact noMisuse_pure _
  refine noMisuse_bind (asked _ _) fun result => ?_
  exact noMisuse_bind (noMisuse_ofExcept _ _) fun rows => noMisuse_pure _

theorem IpLookup.noMisuse_perform (host : String) (context : Context) :
    NoMisuse (IpLookup.perform host context) := by
  refine noMisuse_bind (noMisuse_record _) fun _ => noMisuse_bind noMisuse_get fun w => ?_
  exact noMisuse_bind (noMisuse_ofExcept _ _) fun _ => noMisuse_pure _

theorem NsLookup.noMisuse_perform (action : NsLookup.Action) (context : Context) :
    NoMisuse (NsLookup.perform action context) := by
  refine noMisuse_bind (noMisuse_ofExcept _ _) fun name => ?_
  have asked : NoMisuse (do
      ofExcept Fault.dns (NsLookup.checkSize name)
      record (.nameQuery name.wireText action.server)
      let w ← get
      let server := action.server.getD w.nameServer
      let records ← ofExcept Fault.dns (NsLookup.answer w server name)
      return NsLookup.report server name.text records w.queryTime) := by
    refine noMisuse_bind (noMisuse_ofExcept _ _) fun _ => noMisuse_bind (noMisuse_record _) fun _ => ?_
    refine noMisuse_bind noMisuse_get fun w => ?_
    exact noMisuse_bind (noMisuse_ofExcept _ _) fun _ => noMisuse_pure _
  split
  · exact noMisuse_bind (noMisuse_fault _) fun _ => asked
  · exact asked

theorem Info.noMisuse_perform (action : Info.Action) (context : Context) :
    NoMisuse (Info.perform action context) := by
  refine noMisuse_bind (noMisuse_record _) fun _ => noMisuse_bind noMisuse_get fun w => ?_
  cases action with
  | hostName | network => exact noMisuse_bind (noMisuse_ofExcept _ _) fun _ => noMisuse_pure _
  | environment name => exact noMisuse_pure _

/-- A step that fails by misuse leaves its world, and fails alike in every other. -/
def FailsAlike (h : Handler World) : Prop :=
  ∀ args context w w' e, h.execute args context w = (.failed (.usage e), w') →
    w' = w ∧ ∀ context' world, h.execute args context' world = (.failed (.usage e), world)

/-- Where nothing that is performed stops at a misuse, reading alone decides about it. -/
theorem failsAlike_of_phases {α : Type} {p : Probe} (phases : p.Phases α)
    (sound : ∀ action context, NoMisuse (phases.perform action context)) :
    FailsAlike p.handler := by
  intro args context w w' e h
  cases read : phases.read args with
  | error found =>
    have first := (phases.execute_of_read_error read context w).symm.trans h
    cases first
    exact ⟨rfl, fun context' world => phases.execute_of_read_error read context' world⟩
  | ok action =>
    have ran := (phases.execute_of_read_ok read context w).symm.trans h
    obtain ⟨cause, other, -⟩ := outcome_failed (P := fun _ => True) (fun _ _ _ => trivial)
      (sound action context) (congrArg Prod.fst ran)
    cases other

theorem failsAlike_builtinHandler (v : Verb) : FailsAlike (builtinHandler v) := by
  cases v with
  | http => exact failsAlike_of_phases Http.phases Http.noMisuse_perform
  | tcp => exact failsAlike_of_phases Tcp.phases Tcp.noMisuse_perform
  | blob => exact failsAlike_of_phases Blob.phases Blob.noMisuse_perform
  | file => exact failsAlike_of_phases File.phases File.noMisuse_perform
  | redis => exact failsAlike_of_phases Redis.phases Redis.noMisuse_perform
  | sql => exact failsAlike_of_phases Sql.phases Sql.noMisuse_perform
  | iplookup => exact failsAlike_of_phases IpLookup.phases IpLookup.noMisuse_perform
  | nslookup => exact failsAlike_of_phases NsLookup.phases NsLookup.noMisuse_perform
  | info => exact failsAlike_of_phases Info.phases Info.noMisuse_perform
  | header => exact failsAlike_of_phases Inbound.headerPhases fun _ _ => noMisuse_pure _
  | connection => exact failsAlike_of_phases Inbound.connectionPhases fun _ _ => noMisuse_pure _

/-- A step that fails by misuse changes nothing in its world, where all that
steps reach for is recorded. Its arguments alone decide about it: whatever the
remainder, the request and the world, it fails in the same way. -/
theorem misuse_changes_nothing (v : Verb) (args : List String) (context : Context) (w w' : World)
    (e : UsageError)
    (h : builtin.execute ⟨v.name, args⟩ context w = (.failed (.usage e), w')) :
    w' = w ∧ ∀ context' world,
      builtin.execute ⟨v.name, args⟩ context' world = (.failed (.usage e), world) := by
  have executes (context : Context) (w : World) :
      builtin.execute ⟨v.name, args⟩ context w = (builtinHandler v).execute args context w := by
    simp only [Registry.execute, Registry.resolve_name, handler?_builtin]
  rw [executes] at h
  obtain ⟨same, alike⟩ := failsAlike_builtinHandler v args context w w' e h
  constructor
  · exact same
  · intro context' world
    rw [executes]
    exact alike context' world

theorem misuse_of_put_without_value :
    let args := ["PUT", "box", "blob", "http://[::1]/"]
    let context : Context := ⟨["INFO"], .empty⟩
    builtin.execute ⟨Verb.blob.name, args⟩ context .still =
      (.failed (.usage (.missing .blob "value")), .still) ∧
    ∀ context' world, builtin.execute ⟨Verb.blob.name, args⟩ context' world =
      (.failed (.usage (.missing .blob "value")), world) := by
  intro args context
  have failed : builtin.execute ⟨Verb.blob.name, args⟩ context .still =
      (.failed (.usage (.missing .blob "value")), .still) := by rfl
  exact ⟨failed, (misuse_changes_nothing .blob args context .still .still _ failed).2⟩

end Verbs
end HopProbe
