import HopProbe.Proofs.Http.Prepared
import HopProbe.Proofs.Http.Sending
import HopProbe.Proofs.Verbs.Reading

/-!
# Every built-in verb only changes its world

Verb by verb: what it performs is within every relation that its own kind of
change keeps. Only HTTP and BLOB send a request at all, only FILE writes files,
only REDIS writes a store, and only SQL uses up answers. A misused line changes
nothing.
-/

set_option autoImplicit false

namespace HopProbe
open Effect

namespace Verbs

/-- The one request that a line sends is its own, if it can be made and all of it has room. -/
theorem Http.perform_world (action : Http.Action) (context : Context) (w : World) :
    ((Http.perform action context).run.run w).2 =
      match Http.request action context.remainderScript with
      | .error _ => w
      | .ok r =>
        if HopProbe.Http.isFull (r.fields.names ++ Http.managed) then w
        else ((HopProbe.Http.send r).run.run w).2 := by
  unfold Http.perform
  rw [run_bind]
  cases Http.request action context.remainderScript with
  | error e => rw [run_ofExcept_error]
  | ok r =>
    rw [run_ofExcept_ok]
    dsimp only
    split
    · rfl
    · rw [run_bind]
      rcases (HopProbe.Http.send r).run.run w with ⟨stop | ⟨answered, response⟩, next⟩
      · rfl
      · dsimp only
        split
        · exact HopProbe.Http.received_world _ _ _
        · rfl

theorem Http.execute_world {args : List String} {action : Http.Action}
    (read : Http.read args = .ok action) (context : Context) (w : World) :
    (builtin.execute ⟨"HTTP", args⟩ context w).2 =
      ((Http.perform action context).run.run w).2 := by
  have done : Http.phases.read args = .ok action := read
  have executed : builtin.execute ⟨"HTTP", args⟩ context w = Http.probe.execute args context w :=
    execute_builtin .http _ context w
  rw [executed, Http.phases.execute_of_read_ok done]
  exact Effect.outcome_world _ _

section
variable {R : World → World → Prop} [World.Frame R]

theorem Http.within_perform (action : Http.Action) (context : Context)
    (sends : ∀ r, Http.request action context.remainderScript = .ok r →
      Within R (HopProbe.Http.send r)) :
    Within R (Http.perform action context) := by
  intro w
  rw [Http.perform_world]
  cases made : Http.request action context.remainderScript with
  | error e => exact World.Frame.refl w
  | ok r =>
    dsimp only
    split
    · exact World.Frame.refl w
    · exact sends r made w

theorem Tcp.within_perform (action : Tcp.Action) (context : Context) :
    Within R (Tcp.perform action context) := by
  refine within_bind (within_record (by simp)) fun _ => ?_
  refine within_bind within_get fun w => ?_
  exact within_bind (within_ofExcept _ _) fun _ => within_pure _

theorem Blob.within_exchange (operation : String) (accepted : Nat → Bool)
    (method : HopProbe.Http.Method) (url : Except HopProbe.Blob.EndpointError Url)
    {fields : HopProbe.Http.Fields} (plain : "content-length" ∉ fields.names) (body : List UInt8)
    (sends : ∀ r, (r.method = method ∧ r.body = body ∧ ∃ u, url = .ok u ∧ r.SentTo u) →
      Within R (HopProbe.Http.send r)) :
    Within R
      (HopProbe.Blob.Container.exchange operation accepted method url fields body) := by
  refine within_ofExcept_bind fun url found => ?_
  refine within_ofExcept_bind fun request made => ?_
  have whole : request.body = body :=
    (HopProbe.Http.body_prepared made (by simp [HopProbe.Http.Fields.names])
      (by simp [HopProbe.Http.Fields.names])).2.mpr (HopProbe.Http.Fields.not_cut plain body)
  obtain ⟨-, -, named, -, -⟩ := HopProbe.Http.prepare_ok made
  have sent := HopProbe.Http.sentTo_prepared made
  refine within_bind (sends _ ⟨named, whole, url, found, sent⟩) fun answer => ?_
  dsimp only
  split
  · exact within_pure _
  · exact within_throw _

/-- What a line can send to a blob service: no POST, and no body but the value that it writes. -/
def Blob.CanSend (action : Blob.Action) (r : HopProbe.Http.Request) : Prop :=
  r.method ≠ .post ∧
    (r.body = [] ∨ ∃ value, action.operation = .put value ∧ r.body = Text.Utf8.bytes value)

theorem Blob.within_perform (action : Blob.Action) (context : Context)
    (sends : ∀ r, Blob.CanSend action r → Within R (HopProbe.Http.send r)) :
    Within R (Blob.perform action context) := by
  have bare (operation : String) (accepted : Nat → Bool) (method : HopProbe.Http.Method)
      (url : Except HopProbe.Blob.EndpointError Url) (h : method ≠ .post) :
      Within R (HopProbe.Blob.Container.exchange operation accepted method url
        [HopProbe.Blob.versionField] []) :=
    within_exchange operation accepted method url (by decide) []
      fun r ⟨named, empty, _⟩ => sends r ⟨named ▸ h, Or.inl empty⟩
  have opened : Within R (HopProbe.Blob.openContainer action.endpoint action.container) :=
    within_bind (within_ofExcept _ _) fun _ => within_pure _
  refine within_bind opened fun container => ?_
  refine within_bind (within_bind (bare _ _ _ _ (by decide)) fun _ => within_pure _) fun _ => ?_
  cases written : action.operation with
  | get =>
    refine within_bind (within_bind (bare _ _ _ _ (by decide)) fun answer => ?_) fun _ =>
      within_pure _
    exact HopProbe.Http.within_received _ _
  | put value =>
    refine within_bind (within_bind (bare _ _ _ _ (by decide)) fun _ => within_pure _) fun _ => ?_
    have upload : Within R (container.upload action.blob (Text.Utf8.bytes value)) := by
      refine within_bind (within_exchange _ _ _ _ (by decide) _ ?_) fun _ => within_pure _
      exact fun r ⟨named, whole, _⟩ => sends r ⟨by simp [named], Or.inr ⟨value, written, whole⟩⟩
    exact within_bind upload fun _ => within_pure _

theorem File.within_unlessMissing {α : Type} (path : String) (shown : α → String)
    (result : Except IoError α) : Within R (File.unlessMissing path shown result) := by
  cases result with
  | ok a => exact within_pure _
  | error e =>
    unfold File.unlessMissing
    dsimp only
    split
    · exact within_pure _
    · exact within_throw _

theorem File.within_write (writes : ∀ w files, R w { w with files }) (path content : String) :
    Within R (File.write path content) := by
  refine within_bind (within_record (by simp)) fun _ => ?_
  refine within_bind within_get fun w => ?_
  refine within_bind (within_ofExcept _ _) fun there => ?_
  split
  · refine within_bind (within_ofExcept _ _) fun files => ?_
    exact within_bind (within_modify fun w => writes w files) fun _ => within_pure _
  · exact within_pure _

theorem File.within_perform (writes : ∀ w files, R w { w with files }) (action : File.Action)
    (context : Context) : Within R (File.perform action context) := by
  obtain ⟨operation, path⟩ := action
  cases operation with
  | list | read =>
    refine within_bind (within_record (by simp)) fun _ => ?_
    exact within_bind within_get fun w => within_unlessMissing _ _ _
  | write content => exact within_write writes _ _

theorem Redis.within_await (conduct : Conduct) : Within R (KeyValue.await conduct) := by
  cases conduct with
  | answers => exact within_pure _
  | loses applied loss =>
    cases loss with
    | silence | ending | breakage => exact within_throw _

theorem Redis.within_connect (place : KeyValue.Place) : Within R (KeyValue.connect place) := by
  cases place with
  | network host port =>
    refine within_bind (within_record (by simp)) fun _ => ?_
    exact within_bind within_get fun w => within_ofExcept _ _
  | encrypted host port unchecked =>
    refine within_bind (within_record (by simp)) fun _ => ?_
    refine within_bind within_get fun w => ?_
    refine within_bind (within_ofExcept _ _) fun _ => ?_
    split
    · exact within_throw _
    · exact within_ofExcept _ _
  | socket path => exact within_bind within_get fun w => within_throw _

theorem Redis.within_start (endpoint : String) : Within R (KeyValue.start endpoint) := by
  refine within_bind (within_ofExcept _ _) fun target => ?_
  refine within_bind (within_connect _) fun _ => within_bind within_get fun w => ?_
  refine within_bind (within_await _) fun _ => ?_
  exact within_bind (within_ofExcept _ _) fun _ => within_pure _

theorem Redis.within_write (session : StoreSession) (key value : String)
    (puts : ∀ w, R w { w with store := w.store.put session.database key value }) :
    Within R (KeyValue.write session key value) := by
  refine within_bind (within_record (by simp)) fun _ => ?_
  have last (w : World) : Within R (do
      KeyValue.await (w.conduct w.events)
      ofExcept Fault.keyValue (KeyValue.permits w.store session key)) :=
    within_bind (within_await _) fun _ => within_ofExcept _ _
  intro w
  rw [run_bind, run_get]
  dsimp only
  split
  · rw [run_bind, run_set]
    exact World.Frame.trans (puts w) (last w _)
  · exact last w w

theorem Redis.within_perform (puts : ∀ w d k v, R w { w with store := w.store.put d k v })
    (action : Redis.Action) (context : Context) : Within R (Redis.perform action context) := by
  refine within_bind (within_start _) fun session => ?_
  cases action.operation with
  | get =>
    refine within_bind ?_ fun _ => within_pure _
    refine within_bind (within_record (by simp)) fun _ => ?_
    refine within_bind within_get fun w => ?_
    refine within_bind (within_await _) fun _ => ?_
    exact within_bind (within_ofExcept _ _) fun _ => within_pure _
  | set value =>
    exact within_bind (within_write _ _ _ fun w => puts w _ _ _) fun _ => within_pure _

theorem Sql.within_ask (consumes : ∀ w answers, R w { w with answers }) (path query : String) :
    Within R (Sql.ask path query) := by
  refine within_bind (within_record (by simp)) fun _ => ?_
  refine within_bind within_get fun w => ?_
  split
  · exact within_throw _
  · refine within_bind (within_modify fun w => consumes w _) fun _ => ?_
    refine within_bind (within_ofExcept _ _) fun result => ?_
    split
    · exact within_throw _
    · exact within_pure _

theorem Sql.within_perform (consumes : ∀ w answers, R w { w with answers }) (action : Sql.Action)
    (context : Context) : Within R (Sql.perform action context) := by
  refine within_bind (within_ask consumes _ _) fun result => ?_
  exact within_bind (within_ofExcept _ _) fun rows => within_pure _

theorem IpLookup.within_perform (host : String) (context : Context) :
    Within R (IpLookup.perform host context) := by
  refine within_bind (within_record (by simp)) fun _ => ?_
  refine within_bind within_get fun w => ?_
  exact within_bind (within_ofExcept _ _) fun _ => within_pure _

theorem NsLookup.within_perform (action : NsLookup.Action) (context : Context) :
    Within R (NsLookup.perform action context) := by
  refine within_bind (within_ofExcept _ _) fun name => ?_
  have asked : Within R (do
      ofExcept Fault.dns (NsLookup.checkSize name)
      record (.nameQuery name.wireText action.server)
      let w ← get
      let server := action.server.getD w.nameServer
      let records ← ofExcept Fault.dns (NsLookup.answer w server name)
      return NsLookup.report server name.text records w.queryTime) := by
    refine within_bind (within_ofExcept _ _) fun _ => ?_
    refine within_bind (within_record (by simp)) fun _ => ?_
    refine within_bind within_get fun w => ?_
    exact within_bind (within_ofExcept _ _) fun _ => within_pure _
  split
  · exact within_bind (within_throw _) fun _ => asked
  · exact asked

theorem Info.within_perform (action : Info.Action) (context : Context) :
    Within R (Info.perform action context) := by
  refine within_bind (within_record (by simp)) fun _ => ?_
  refine within_bind within_get fun w => ?_
  cases action with
  | hostName | network => exact within_bind (within_ofExcept _ _) fun _ => within_pure _
  | environment name => exact within_pure _

end

end Verbs

theorem Probe.Phases.execute_within {α : Type} {R : World → World → Prop} [World.Frame R]
    {p : Probe} (phases : p.Phases α) {args : List String} {context : Context}
    (h : ∀ action, phases.read args = .ok action → Within R (phases.perform action context))
    (w : World) : R w (p.execute args context w).2 := by
  cases read : phases.read args with
  | error e =>
    rw [phases.execute_of_read_error read]
    exact World.Frame.refl w
  | ok action =>
    rw [phases.execute_of_read_ok read, outcome_world]
    exact h action read w

namespace Verbs

def CanSend (v : Verb) (args : List String) (context : Context) (r : HopProbe.Http.Request) : Prop :=
  match v with
  | .http => ∃ action, Http.read args = .ok action ∧
      Http.request action context.remainderScript = .ok r
  | .blob => ∃ action, Blob.read args = .ok action ∧ Blob.CanSend action r
  | _ => False

/-- What a verb does to a world: four verbs make changes of one kind each, two of them by requests
that they can send, and the others look and record. -/
structure Allows (R : World → World → Prop) (v : Verb) (args : List String) (context : Context) :
    Prop where
  sends : ∀ r, CanSend v args context r → Within R (HopProbe.Http.send r)
  files : v = .file → ∀ w files, R w { w with files }
  puts : v = .redis → ∀ w d k value, R w { w with store := w.store.put d k value }
  answers : v = .sql → ∀ w answers, R w { w with answers }

theorem builtinHandler_within {R : World → World → Prop} [World.Frame R] {v : Verb}
    {args : List String} {context : Context} (h : Allows R v args context) (w : World) :
    R w ((builtinHandler v).execute args context w).2 := by
  cases v with
  | http =>
    exact Http.phases.execute_within (fun action read =>
      Http.within_perform action context fun r made => h.sends r ⟨action, read, made⟩) w
  | blob =>
    exact Blob.phases.execute_within (fun action read =>
      Blob.within_perform action context fun r sent => h.sends r ⟨action, read, sent⟩) w
  | tcp => exact Tcp.phases.execute_within (fun a _ => Tcp.within_perform a context) w
  | file =>
    exact File.phases.execute_within (fun a _ => File.within_perform (h.files rfl) a context) w
  | redis =>
    exact Redis.phases.execute_within (fun a _ => Redis.within_perform (h.puts rfl) a context) w
  | sql => exact Sql.phases.execute_within (fun a _ => Sql.within_perform (h.answers rfl) a context) w
  | iplookup =>
    exact IpLookup.phases.execute_within (fun host _ => IpLookup.within_perform host context) w
  | nslookup => exact NsLookup.phases.execute_within (fun a _ => NsLookup.within_perform a context) w
  | info => exact Info.phases.execute_within (fun a _ => Info.within_perform a context) w
  | header => exact Inbound.headerPhases.execute_within (fun _ _ => within_pure _) w
  | connection => exact Inbound.connectionPhases.execute_within (fun _ _ => within_pure _) w

theorem builtin_within {R : World → World → Prop} [World.Frame R] {command : Script.Command}
    {context : Context}
    (h : ∀ v, Verb.ofName? command.verb = some v → Allows R v command.args context) (w : World) :
    R w (builtin.execute command context w).2 := by
  unfold Registry.execute
  cases hv : Verb.ofName? command.verb with
  | none =>
    simp only [Registry.resolve, hv, Option.bind_none]
    exact World.Frame.refl w
  | some v =>
    simpa [Registry.resolve, hv, handler?_builtin] using builtinHandler_within (h v hv) w

theorem builtin_changesBy (command : Script.Command) (context : Context) (w : World) :
    World.ChangesBy
      (fun r => ∃ v, Verb.ofName? command.verb = some v ∧ CanSend v command.args context r)
      w (builtin.execute command context w).2 :=
  builtin_within (fun v named => {
    sends := fun _ can =>
      HopProbe.Http.within_send (fun w => World.changesBy_exchange w ⟨v, named, can⟩)
        World.changesBy_pursue
    files := fun _ w files => World.changesBy_quiet (.files w files) rfl
    puts := fun _ w d k value => World.changesBy_quiet (.put w d k value) rfl
    answers := fun _ w answers => World.changesBy_quiet (.answers w answers) rfl }) w

theorem allows_keepsDirect (v : Verb) (args : List String) (context : Context) :
    Allows World.KeepsDirect v args context where
  sends r _ := HopProbe.Http.keepsDirect_send r
  files _ _ _ := World.keepsDirect_quiet rfl rfl
  puts _ _ _ _ _ := World.keepsDirect_quiet rfl rfl
  answers _ _ _ := World.keepsDirect_quiet rfl rfl

theorem handler_keepsDirect (v : Verb) (args : List String) (context : Context) (w : World) :
    World.KeepsDirect w ((builtinHandler v).execute args context w).2 :=
  builtinHandler_within (allows_keepsDirect v args context) w

theorem builtin_keepsDirect (command : Script.Command) (context : Context) (w : World) :
    World.KeepsDirect w (builtin.execute command context w).2 :=
  builtin_within (fun v _ => allows_keepsDirect v command.args context) w

theorem builtin_changes (command : Script.Command) (context : Context) (w : World) :
    World.Changes w (builtin.execute command context w).2 :=
  World.changes_of_changesBy (builtin_changesBy command context w)

end Verbs
end HopProbe
