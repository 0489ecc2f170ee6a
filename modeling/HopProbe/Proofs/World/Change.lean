import HopProbe.World.Effect
import Mathlib.Logic.Relation

/-!
# What an effect can do to a world

All that effects do to a world is made of six changes. An effect that is put
together from effects of this kind is one of them, so that what each change
keeps every effect keeps: the events before it, and the peers that answer more
than once. An effect that does only some of the changes is within every
relation that these keep, and which requests it can send is one of them.
-/

set_option autoImplicit false

namespace HopProbe

/-- One thing that is done to a world. -/
inductive World.Change : World → World → Prop
  | record (w : World) (e : Event) (h : ∀ r, e ≠ .request r ∧ e ≠ .followUp r) : Change w (w.record e)
  | exchange (w : World) (r : Http.Request) : Change w (w.exchange r).2
  | pursue (w : World) (r : Http.Request) : Change w (w.pursue r).2
  | files (w : World) (files : FileSystem) : Change w { w with files }
  | put (w : World) (database : Int) (key value : String) :
    Change w { w with store := w.store.put database key value }
  | answers (w : World) (answers : List SqlAnswer) : Change w { w with answers }

abbrev World.Changes : World → World → Prop := Relation.ReflTransGen World.Change

def World.ChangesBy (P : Http.Request → Prop) : World → World → Prop :=
  Relation.ReflTransGen fun w w' =>
    World.Change w w' ∧ ∀ r, w'.events = w.events ++ [.request r] → P r

theorem World.changesBy_quiet {P : Http.Request → Prop} {w w' : World} (h : World.Change w w')
    (quiet : w'.events = w.events) : World.ChangesBy P w w' :=
  .single ⟨h, fun r hr => by simp [quiet] at hr⟩

/-- A relation that holds between the worlds around whatever is only looked at or recorded. -/
class World.Frame (R : World → World → Prop) : Prop where
  refl (w : World) : R w w
  trans {u v w : World} : R u v → R v w → R u w
  record (w : World) {e : Event} : (∀ r, e ≠ .request r ∧ e ≠ .followUp r) → R w (w.record e)

instance : World.Frame World.Changes where
  refl _ := .refl
  trans := Relation.ReflTransGen.trans
  record w _ h := .single (.record w _ h)

instance (P : Http.Request → Prop) : World.Frame (World.ChangesBy P) where
  refl _ := .refl
  trans := Relation.ReflTransGen.trans
  record w e h := by
    refine .single ⟨.record w e h, fun r hr => ?_⟩
    have added : w.events ++ [e] = w.events ++ [Event.request r] := hr
    exact absurd (by simpa using added) (h r).1

theorem World.changes_of_changesBy {P : Http.Request → Prop} {w w' : World}
    (h : World.ChangesBy P w w') : World.Changes w w' :=
  Relation.ReflTransGen.mono (fun _ _ step => step.1) _ _ h

namespace Effect

variable {α β : Type}

theorem run_bind (e : Effect α) (f : α → Effect β) (w : World) :
    (e >>= f).run.run w = match e.run.run w with
      | (.ok a, w) => (f a).run.run w
      | (.error s, w) => (.error s, w) := by
  rw [ExceptT.run_bind, StateT.run_bind]
  generalize e.run.run w = ended
  rcases ended with ⟨_ | a, w'⟩ <;> rfl

theorem run_get (w : World) : (get : Effect World).run.run w = (.ok w, w) := rfl

theorem run_set (w' w : World) : (set w' : Effect PUnit).run.run w = (.ok ⟨⟩, w') := rfl

theorem run_ofExcept_ok {ε : Type} (wording : ε → Fault) (a : α) (w : World) :
    (ofExcept wording (.ok a)).run.run w = (.ok a, w) := rfl

theorem run_ofExcept_error {ε : Type} (wording : ε → Fault) (e : ε) (w : World) :
    (ofExcept wording (.error e) : Effect α).run.run w = (.error (.fault (wording e)), w) := rfl

theorem of_run_bind_eq_ok {e : Effect α} {f : α → Effect β} {w last : World} {b : β}
    (h : (e >>= f).run.run w = (.ok b, last)) :
    ∃ a next, e.run.run w = (.ok a, next) ∧ (f a).run.run next = (.ok b, last) := by
  rw [run_bind] at h
  rcases ran : e.run.run w with ⟨_ | a, next⟩
  · rw [ran] at h
    cases h
  · rw [ran] at h
    exact ⟨a, next, rfl, h⟩

theorem of_run_ofExcept_eq_ok {ε : Type} {wording : ε → Fault} {r : Except ε α} {w next : World}
    {a : α} (h : (ofExcept wording r).run.run w = (.ok a, next)) : r = .ok a ∧ next = w := by
  cases r with
  | error e => cases h
  | ok b =>
    cases h
    exact ⟨rfl, rfl⟩

/-- An effect whose worlds before and after are always in a relation. -/
def Within (R : World → World → Prop) (e : Effect α) : Prop := ∀ w, R w (e.run.run w).2

abbrev Sending (P : Http.Request → Prop) (e : Effect α) : Prop := Within (World.ChangesBy P) e

section
variable {R : World → World → Prop} [World.Frame R]

theorem within_pure (a : α) : Within R (pure a) := World.Frame.refl

theorem within_throw (s : Stop) : Within R (throw s : Effect α) := World.Frame.refl

theorem within_get : Within R get := World.Frame.refl

theorem within_bind {e : Effect α} {f : α → Effect β} (he : Within R e)
    (hf : ∀ a, Within R (f a)) : Within R (e >>= f) := by
  intro w
  have first := he w
  rw [run_bind]
  generalize e.run.run w = ended at first
  rcases ended with ⟨_ | a, w'⟩
  · exact first
  · exact World.Frame.trans first (hf a w')

theorem within_record {e : Event} (h : ∀ r, e ≠ .request r ∧ e ≠ .followUp r) :
    Within R (record e) :=
  fun w => World.Frame.record w h

theorem within_ofExcept {ε : Type} (wording : ε → Fault) (r : Except ε α) :
    Within R (ofExcept wording r) := by
  cases r with
  | ok a => exact within_pure a
  | error e => exact within_throw _

theorem within_ofExcept_bind {ε : Type} {wording : ε → Fault} {r : Except ε α} {f : α → Effect β}
    (h : ∀ a, r = .ok a → Within R (f a)) : Within R (ofExcept wording r >>= f) := by
  cases r with
  | error e => exact within_throw _
  | ok a => exact h a rfl

end

theorem within_modify {R : World → World → Prop} {change : World → World}
    (h : ∀ w, R w (change w)) : Within R (modify change) := h

theorem outcome_world (e : Effect String) (w : World) : (e.outcome w).2 = (e.run.run w).2 := rfl

theorem outcome_attempt (e : Effect String) (w : World) :
    (e.outcome w).1 = attemptOf (e.run.run w).1 := rfl

theorem attemptOf_finished_iff (result : Except Stop String) (text : String) :
    attemptOf result = .finished text ↔ result = .ok text := by
  rcases result with (_ | _ | _) | made <;> simp [attemptOf]

end Effect

namespace World

/-- A world where nothing answers. -/
def still : World where
  files := .bare
  environment := []
  peers := []
  listeners := []
  security := fun _ _ => .plain
  storeAddress := ⟨.v4 0 0 0 0, 0⟩
  store := .empty
  conduct := fun _ => .answers
  hosts := []
  nameServer := .v4 0 0 0 0
  zone := []
  queryTime := 0
  answers := []
  machine := ⟨.ok [], .ok [], none⟩
  events := []

/-- To ask a peer uses up peers and changes nothing else. -/
theorem ask_world (w : World) (r : Http.Request) :
    ∃ peers, (w.ask r).2 = { w with peers } ∧ (peers = w.peers ∨ peers = (answerFrom r w.peers).2) := by
  unfold ask
  split
  · exact ⟨_, rfl, Or.inr rfl⟩
  · exact ⟨_, rfl, Or.inl rfl⟩

theorem ask_events (w : World) (r : Http.Request) : (w.ask r).2.events = w.events := by
  obtain ⟨peers, same, -⟩ := ask_world w r
  rw [same]

theorem ask_store (w : World) (r : Http.Request) : (w.ask r).2.store = w.store := by
  obtain ⟨peers, same, -⟩ := ask_world w r
  rw [same]

theorem ask_security (w : World) (r : Http.Request) : (w.ask r).2.security = w.security := by
  obtain ⟨peers, same, -⟩ := ask_world w r
  rw [same]

theorem exchange_events (w : World) (r : Http.Request) :
    (w.exchange r).2.events = w.events ++ [.request r] :=
  ask_events _ r

theorem pursue_events (w : World) (r : Http.Request) :
    (w.pursue r).2.events = w.events ++ [.followUp r] :=
  ask_events _ r

theorem change_event {w w' : World} (h : Change w w') :
    ∃ e : Option Event, w'.events = w.events ++ e.toList := by
  cases h with
  | record e => exact ⟨some e, rfl⟩
  | exchange r => exact ⟨some (.request r), exchange_events w r⟩
  | pursue r => exact ⟨some (.followUp r), pursue_events w r⟩
  | files | put | answers => exact ⟨none, (List.append_nil _).symm⟩

/-- Events are only ever added. -/
theorem changes_events {w w' : World} (h : Changes w w') : w.events <+: w'.events := by
  induction h with
  | refl => exact List.prefix_rfl
  | tail _ last ih =>
    obtain ⟨e, added⟩ := change_event last
    exact ih.trans ⟨e.toList, added.symm⟩

theorem changesBy_exchange {P : Http.Request → Prop} (w : World) {r : Http.Request} (h : P r) :
    ChangesBy P w (w.exchange r).2 := by
  refine .single ⟨.exchange w r, fun other sent => ?_⟩
  have same : r = other := by simpa [exchange_events] using sent
  exact same ▸ h

theorem changesBy_pursue {P : Http.Request → Prop} (w : World) (r : Http.Request) :
    ChangesBy P w (w.pursue r).2 :=
  .single ⟨.pursue w r, fun other sent => by simp [pursue_events] at sent⟩

theorem changesBy_events {P : Http.Request → Prop} {w w' : World} (h : ChangesBy P w w') :
    ∃ sent, w'.events = w.events ++ sent ∧ ∀ r, .request r ∈ sent → P r := by
  induction h with
  | refl => exact ⟨[], (List.append_nil _).symm, by simp⟩
  | tail _ last ih =>
    obtain ⟨sent, before, kind⟩ := ih
    obtain ⟨e, added⟩ := change_event last.1
    refine ⟨sent ++ e.toList, by rw [added, before, List.append_assoc], fun r hr => ?_⟩
    rcases List.mem_append.mp hr with earlier | new
    · exact kind r earlier
    · have one : e = some (.request r) := by simpa using new
      exact last.2 r (by rw [added, one]; rfl)

def Lasting (peers : List Peer) (r : Http.Request) (p : Peer) : Prop :=
  peers.find? (·.accepts r) = some p ∧ p.once = false

theorem lasting_answerFrom {peers : List Peer} {r : Http.Request} {p : Peer}
    (h : Lasting peers r p) (other : Http.Request) :
    Lasting (answerFrom other peers).2 r p := by
  refine ⟨?_, h.2⟩
  have found := h.1
  induction peers with
  | nil => simp at found
  | cons q qs ih =>
    by_cases hq : q.accepts r
    · have same : q = p := by simpa [hq] using found
      subst same
      by_cases ho : q.accepts other <;> simp [answerFrom, ho, h.2, hq]
    · have later : qs.find? (·.accepts r) = some p := by simpa [hq] using found
      by_cases ho : q.accepts other
      · cases once : q.once <;> simp [answerFrom, ho, once, hq, later]
      · simp [answerFrom, ho, hq, ih ⟨later, h.2⟩ later]

theorem ask_lasting {w : World} {r : Http.Request} {p : Peer} (h : Lasting w.peers r p)
    (other : Http.Request) : Lasting (w.ask other).2.peers r p := by
  obtain ⟨peers, same, rfl | rfl⟩ := ask_world w other
  · rw [same]
    exact h
  · rw [same]
    exact lasting_answerFrom h other

theorem change_lasting {w w' : World} (h : Change w w') {r : Http.Request} {p : Peer}
    (hp : Lasting w.peers r p) : Lasting w'.peers r p := by
  cases h with
  | record | files | put | answers => exact hp
  | exchange other => exact ask_lasting (w := w.record (.request other)) hp other
  | pursue other => exact ask_lasting (w := w.record (.followUp other)) hp other

theorem changes_lasting {w w' : World} (h : Changes w w') {r : Http.Request} {p : Peer}
    (hp : Lasting w.peers r p) : Lasting w'.peers r p := by
  induction h with
  | refl => exact hp
  | tail _ last ih => exact change_lasting last ih

theorem answerFrom_subset (r : Http.Request) (peers : List Peer) :
    (answerFrom r peers).2 ⊆ peers := by
  induction peers with
  | nil => exact List.Subset.refl _
  | cons p ps ih =>
    rw [answerFrom]
    split
    · dsimp only
      split
      · exact List.subset_cons_self p ps
      · exact List.Subset.refl _
    · exact List.cons_subset_cons p ih

theorem ask_peers (w : World) (r : Http.Request) : (w.ask r).2.peers ⊆ w.peers := by
  obtain ⟨peers, same, rfl | rfl⟩ := ask_world w r
  · rw [same]
    exact List.Subset.refl _
  · rw [same]
    exact answerFrom_subset r _

theorem changes_peers {w w' : World} (h : Changes w w') : w'.peers ⊆ w.peers := by
  induction h with
  | refl => exact List.Subset.refl _
  | tail _ last ih =>
    refine List.Subset.trans ?_ ih
    cases last with
    | record | files | put | answers => exact List.Subset.refl _
    | exchange r => exact ask_peers _ r
    | pursue r => exact ask_peers _ r

theorem changes_errors {w w' : World} (h : Changes w w') : w'.store.errors = w.store.errors := by
  induction h with
  | refl => rfl
  | tail _ last ih =>
    rw [← ih]
    cases last with
    | record | files | put | answers => rfl
    | exchange r => exact congrArg Store.errors (ask_store _ r)
    | pursue r => exact congrArg Store.errors (ask_store _ r)

theorem changes_security {w w' : World} (h : Changes w w') : w'.security = w.security := by
  induction h with
  | refl => rfl
  | tail _ last ih =>
    rw [← ih]
    cases last with
    | record | files | put | answers => rfl
    | exchange r => exact ask_security _ r
    | pursue r => exact ask_security _ r

theorem answerFrom_of_lasting {peers : List Peer} {r : Http.Request} {p : Peer}
    (h : Lasting peers r p) : (answerFrom r peers).1 = p.reply r := by
  have found := h.1
  induction peers with
  | nil => simp at found
  | cons q qs ih =>
    by_cases hq : q.accepts r
    · have same : q = p := by simpa [hq] using found
      subst same
      simp [answerFrom, hq]
    · have later : qs.find? (·.accepts r) = some p := by simpa [hq] using found
      simp [answerFrom, hq, ih ⟨later, h.2⟩ later]

end World
end HopProbe
