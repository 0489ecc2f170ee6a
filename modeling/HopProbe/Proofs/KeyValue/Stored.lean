import HopProbe.Proofs.Verbs.Change

/-!
# What REDIS does to a store

A GET shows what the store holds for the key in the database that its endpoint
names. A SET that succeeds puts its value there. One that fails leaves the store
as it is, unless the store did what it was asked and only its reply was lost.
-/

set_option autoImplicit false

namespace HopProbe
open Effect

namespace World

def Meets (w : World) : KeyValue.Place → Prop
  | .network host port => w.meetsStore host port = .ok ()
  | .encrypted host port unchecked =>
    unchecked = false ∧ w.meetsStoreEncrypted host port = .ok ()
  | .socket _ => False

instance (w : World) (place : KeyValue.Place) : Decidable (w.Meets place) := by
  cases place <;> unfold Meets <;> infer_instance

/-- The session that an endpoint opens where the store is met. -/
def session? (w : World) (endpoint : String) : Option StoreSession :=
  match KeyValue.targetOf endpoint with
  | .ok target => if w.Meets target.place then some target.session else none
  | .error _ => none

def database? (w : World) (endpoint : String) : Option Int :=
  (w.session? endpoint).map StoreSession.database

/-- The store answers whatever it does: a reply is lost only of a command that it left undone. -/
def Confirms (w : World) : Prop := ∀ events loss, w.conduct events ≠ .loses true loss

/-- The store did what it was asked last, but its reply was lost. -/
def Unconfirmed (w : World) (session : StoreSession) (command : StoreCommand) : Prop :=
  w.events.getLast? = some (.store session command) ∧ ∃ loss, w.conduct w.events = .loses true loss

def SameStore (w w' : World) : Prop := w'.store = w.store

instance : Frame SameStore where
  refl _ := rfl
  trans h h' := h'.trans h
  record _ _ _ := rfl

theorem sameStore_exchange (w : World) (r : Http.Request) : SameStore w (w.exchange r).2 :=
  ask_store _ r

theorem sameStore_pursue (w : World) (r : Http.Request) : SameStore w (w.pursue r).2 :=
  ask_store _ r

theorem changes_store {w w' : World} (h : Changes w w') :
    w'.session? = w.session? ∧ w'.conduct = w.conduct := by
  have asked (w : World) (r : Http.Request) :
      (w.ask r).2.session? = w.session? ∧ (w.ask r).2.conduct = w.conduct := by
    obtain ⟨peers, same, -⟩ := ask_world w r
    rw [same]
    exact ⟨rfl, rfl⟩
  induction h with
  | refl => exact ⟨rfl, rfl⟩
  | tail _ last ih =>
    obtain ⟨sessions, conduct⟩ := ih
    rw [← sessions, ← conduct]
    cases last with
    | record | files | put | answers => exact ⟨rfl, rfl⟩
    | exchange r => exact asked _ r
    | pursue r => exact asked _ r

theorem changes_database {w w' : World} (h : Changes w w') : w'.database? = w.database? := by
  funext endpoint
  rw [database?, (changes_store h).1]
  rfl

end World

namespace Verbs

theorem sameStore_of_other {command : Script.Command} (other : Verb.ofName? command.verb ≠ some .redis)
    (context : Context) (w : World) :
    World.SameStore w (builtin.execute command context w).2 :=
  builtin_within (fun _ named => {
    sends := fun _ _ => HopProbe.Http.within_send (fun w => World.sameStore_exchange w _)
      World.sameStore_pursue
    files := fun _ _ _ => rfl
    puts := fun redis => absurd (redis ▸ named) other
    answers := fun _ _ _ => rfl }) w

namespace Redis
open KeyValue

theorem meets_of_connect {place : Place} {w next : World}
    (h : (connect place).run.run w = (.ok (), next)) : w.Meets place := by
  cases place with
  | socket path => cases h
  | network host port =>
    obtain ⟨_, recorded, made, seen⟩ := of_run_bind_eq_ok h
    obtain ⟨world, _, looked, meets⟩ := of_run_bind_eq_ok seen
    cases made
    cases looked
    exact (of_run_ofExcept_eq_ok meets).1
  | encrypted host port unchecked =>
    obtain ⟨_, recorded, made, seen⟩ := of_run_bind_eq_ok h
    obtain ⟨world, _, looked, found⟩ := of_run_bind_eq_ok seen
    obtain ⟨addresses, _, read, meets⟩ := of_run_bind_eq_ok found
    cases made
    cases looked
    obtain ⟨-, rfl⟩ := of_run_ofExcept_eq_ok read
    cases unchecked with
    | true => cases meets
    | false => exact ⟨rfl, (of_run_ofExcept_eq_ok meets).1⟩

theorem start_ok {endpoint : String} {w next : World} {session : StoreSession}
    (h : (start endpoint).run.run w = (.ok session, next)) :
    w.session? endpoint = some session ∧ next.store = w.store := by
  have same : World.SameStore w _ := within_start endpoint w
  rw [h] at same
  refine ⟨?_, same⟩
  obtain ⟨target, before, read, opened⟩ := of_run_bind_eq_ok h
  obtain ⟨named, rfl⟩ := of_run_ofExcept_eq_ok read
  obtain ⟨_, met, connected, looks⟩ := of_run_bind_eq_ok opened
  obtain ⟨now, _, -, waits⟩ := of_run_bind_eq_ok looks
  obtain ⟨_, _, -, admits⟩ := of_run_bind_eq_ok waits
  obtain ⟨_, _, -, ended⟩ := of_run_bind_eq_ok admits
  have asks : target.session = session := Except.ok.inj (congrArg Prod.fst ended)
  rw [World.session?, named]
  dsimp only
  rw [if_pos (meets_of_connect connected), asks]

theorem get_run (key endpoint : String) (context : Context) (w : World) :
    World.SameStore w ((perform ⟨.get, key, endpoint⟩ context).run.run w).2 ∧
      ∀ text next, (perform ⟨.get, key, endpoint⟩ context).run.run w = (.ok text, next) →
        ∃ d, w.database? endpoint = some d ∧
          text = "GET: " ++ (w.store.get? d key).getD "" := by
  constructor
  · refine within_bind (within_start _) (fun session => ?_) w
    refine within_bind ?_ fun _ => within_pure _
    refine within_bind (within_record (by simp)) fun _ => within_bind within_get fun w => ?_
    exact within_bind (within_await _) fun _ =>
      within_bind (within_ofExcept _ _) fun _ => within_pure _
  · intro text next ran
    obtain ⟨session, opened, started, reading⟩ := of_run_bind_eq_ok ran
    obtain ⟨named, same⟩ := start_ok started
    obtain ⟨value, _, read, ended⟩ := of_run_bind_eq_ok reading
    obtain ⟨_, recorded, made, looks⟩ := of_run_bind_eq_ok read
    obtain ⟨seen, _, looked, waits⟩ := of_run_bind_eq_ok looks
    obtain ⟨_, _, -, permitted⟩ := of_run_bind_eq_ok waits
    obtain ⟨_, _, -, returned⟩ := of_run_bind_eq_ok permitted
    cases made
    cases looked
    cases returned
    have shown : "GET: " ++ (opened.store.get? session.database key).getD "" = text :=
      Except.ok.inj (congrArg Prod.fst ended)
    refine ⟨session.database, by rw [World.database?, named]; rfl, ?_⟩
    rw [← shown, same]

theorem run_await (conduct : Conduct) (w : World) :
    (conduct = .answers ∧ (await conduct).run.run w = (.ok (), w)) ∨
      ∃ applied loss stop, conduct = .loses applied loss ∧
        (await conduct).run.run w = (.error stop, w) := by
  cases conduct with
  | answers => exact Or.inl ⟨rfl, rfl⟩
  | loses applied loss =>
    cases loss with
    | silence | ending | breakage => exact Or.inr ⟨_, _, _, rfl, rfl⟩

/-- The command is sent, its value is put if the store does what it is asked, and its reply is what
is left to happen. -/
theorem run_write (session : StoreSession) (key value : String) (w : World) :
    let sent := w.record (.store session (.set key value))
    let conduct := sent.conduct sent.events
    let permitted := permits sent.store session key
    (write session key value).run.run w =
      (do
        await conduct
        ofExcept Fault.keyValue permitted : Effect Unit).run.run
      (if permitted.isOk && conduct.applies then
        { sent with store := sent.store.put session.database key value }
      else sent) := by
  intro sent conduct permitted
  have looks : (record (.store session (.set key value)) : Effect Unit).run.run w = (.ok (), sent) :=
    rfl
  unfold write
  rw [run_bind, looks]
  dsimp only
  rw [run_bind, run_get]
  dsimp only
  split
  · rw [run_bind, run_set]
  · rfl

/-- A command to write puts its value and succeeds, or it fails; then the store is as it was, unless
it put the value and its reply was lost. -/
theorem write_run (session : StoreSession) (key value : String) (w : World) :
    ∃ result next, (write session key value).run.run w = (result, next) ∧
      ((result = .ok () ∧ next.store = w.store.put session.database key value) ∨
        (∃ stop, result = .error stop) ∧ (next.store = w.store ∨
          next.store = w.store.put session.database key value ∧
            next.Unconfirmed session (.set key value))) := by
  let sent := w.record (.store session (.set key value))
  have last : sent.events.getLast? = some (.store session (.set key value)) :=
    List.getLast?_concat
  rw [run_write, run_bind]
  rcases run_await (sent.conduct sent.events) (if (permits sent.store session key).isOk &&
      (sent.conduct sent.events).applies then
      { sent with store := sent.store.put session.database key value } else sent) with
    ⟨answers, waited⟩ | ⟨applied, loss, stop, loses, waited⟩
  · rw [waited, answers]
    cases permits sent.store session key with
    | ok _ => exact ⟨_, _, rfl, Or.inl ⟨rfl, rfl⟩⟩
    | error text => exact ⟨_, _, rfl, Or.inr ⟨⟨_, rfl⟩, Or.inl rfl⟩⟩
  · rw [waited, loses]
    refine ⟨_, _, rfl, Or.inr ⟨⟨stop, rfl⟩, ?_⟩⟩
    split
    · next did =>
      obtain ⟨-, rfl⟩ := Bool.and_eq_true_iff.mp did
      exact Or.inr ⟨rfl, last, loss, loses⟩
    · exact Or.inl rfl

theorem set_run (value key endpoint : String) (context : Context) (w : World) :
    ∃ result next, (perform ⟨.set value, key, endpoint⟩ context).run.run w = (result, next) ∧
      ((∃ text d, result = .ok text ∧ w.database? endpoint = some d ∧
          next.store = w.store.put d key value) ∨
        (∃ stop, result = .error stop) ∧ (next.store = w.store ∨
          ∃ session, w.session? endpoint = some session ∧
            next.store = w.store.put session.database key value ∧
              next.Unconfirmed session (.set key value))) := by
  have opens : World.SameStore w _ := within_start endpoint w
  simp only [perform]
  rw [run_bind]
  rcases started : (start endpoint).run.run w with ⟨stop | session, opened⟩
  · rw [started] at opens
    exact ⟨_, opened, rfl, Or.inr ⟨⟨stop, rfl⟩, Or.inl opens⟩⟩
  · obtain ⟨named, same⟩ := start_ok started
    obtain ⟨result, next, ran, ends⟩ := write_run session key value opened
    rw [same] at ends
    dsimp only
    rw [run_bind, ran]
    rcases ends with ⟨rfl, put⟩ | ⟨⟨stop, rfl⟩, left⟩
    · exact ⟨_, next, rfl, Or.inl ⟨_, session.database, rfl,
        by rw [World.database?, named]; rfl, put⟩⟩
    · refine ⟨_, next, rfl, Or.inr ⟨⟨stop, rfl⟩, left.imp_right fun lost => ?_⟩⟩
      exact ⟨session, named, lost⟩

end Redis
end Verbs
end HopProbe
