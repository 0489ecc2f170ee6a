import HopProbe.Http.Client
import HopProbe.Proofs.World.Change

/-!
# What is sent for a request

A request is sent once. All that can follow it are requests that responses sent
elsewhere, and where no response does that, its own response is the last word.
-/

set_option autoImplicit false

namespace HopProbe

def World.Direct (w : World) : Prop :=
  ∀ p ∈ w.peers, ∀ r response, p.reply r = .response response → Http.place? r response = none

theorem World.answerFrom_reply (r : Http.Request) (peers : List Peer) :
    (answerFrom r peers).1 = .closed ∨
      ∃ p ∈ peers, p.accepts r = true ∧ (answerFrom r peers).1 = p.reply r := by
  induction peers with
  | nil => exact Or.inl rfl
  | cons p ps ih =>
    rw [answerFrom]
    split
    · next accepts => exact Or.inr ⟨p, List.mem_cons_self .., accepts, rfl⟩
    · rcases ih with none | ⟨q, there, accepts, same⟩
      · exact Or.inl none
      · exact Or.inr ⟨q, List.mem_cons_of_mem p there, accepts, same⟩

theorem World.reply_of_ask {w : World} {r : Http.Request} {response : Http.Response}
    (h : (w.ask r).1 = .response response) :
    ∃ p ∈ w.peers, p.accepts r = true ∧ p.reply r = .response response := by
  unfold World.ask at h
  split at h
  · rcases World.answerFrom_reply r w.peers with none | ⟨p, there, accepts, same⟩
    · cases none.symm.trans h
    · exact ⟨p, there, accepts, same.symm.trans h⟩
  · cases h

def World.KeepsDirect (w w' : World) : Prop :=
  w.Direct → w'.Direct ∧ ∃ added, w'.events = w.events ++ added ∧ ∀ r, .followUp r ∉ added

instance : World.Frame World.KeepsDirect where
  refl w direct := ⟨direct, [], (List.append_nil _).symm, by simp⟩
  trans := by
    intro u v w first second direct
    obtain ⟨still, added, before, none⟩ := first direct
    obtain ⟨last, more, behind, no⟩ := second still
    refine ⟨last, added ++ more, by rw [behind, before, List.append_assoc], fun r hr => ?_⟩
    rcases List.mem_append.mp hr with earlier | later
    · exact none r earlier
    · exact no r later
  record w e h direct :=
    ⟨direct, [e], rfl, fun r hr => absurd (List.mem_singleton.mp hr).symm (h r).2⟩

theorem World.keepsDirect_quiet {w w' : World} (peers : w'.peers = w.peers)
    (events : w'.events = w.events) : World.KeepsDirect w w' :=
  fun direct => ⟨fun p there => direct p (peers ▸ there), [], by simp [events], by simp⟩

theorem World.not_followUp_of_keepsDirect {w w' : World} {added : List Event}
    (h : World.KeepsDirect w w') (events : w'.events = w.events ++ added) (direct : w.Direct) :
    ∀ r, .followUp r ∉ added := by
  obtain ⟨-, found, same, none⟩ := h direct
  rwa [List.append_cancel_left (events.symm.trans same)]

namespace Http
open Effect

theorem place?_of_stays (r : Request) {response : Response}
    (h : sendsElsewhere response.status = false) : place? r response = none := by
  simp [place?, h]

theorem settle_of_none (first : Url) (hops : Nat) {r : Request} {response : Response}
    (h : place? r response = none) :
    settle first hops r (.response response) = pure (r, response) := by
  cases hops <;> rw [settle, h] <;> rfl

/-- Requests that responses sent on, each from the one before it, and the worlds around them. -/
inductive Pursued : World → Request → List Request → Request → World → Prop
  | stays (w : World) (r : Request) : Pursued w r [] r w
  | moves {w w' : World} {r last : Request} {rest : List Request} (response : Response) {next : Url}
    (sent : (place? r response).map Url.parse = some (.ok next))
    (more : Pursued (w.pursue (onward r response.status next)).2 (onward r response.status next)
      rest last w') : Pursued w r (onward r response.status next :: rest) last w'

theorem Pursued.events {w w' : World} {r last : Request} {followed : List Request}
    (h : Pursued w r followed last w') : w'.events = w.events ++ followed.map .followUp := by
  induction h with
  | stays => exact (List.append_nil _).symm
  | moves response sent more ih => simp [ih, World.pursue_events]

/-- How a request ends: what is sent on for it, and the response that stays. -/
structure Settled (hops : Nat) (w : World) (r : Request) (followed : List Request)
    (ended : Except Stop (Request × Response) × World) : Prop where
  pursued : ∃ last, Pursued w r followed last ended.2 ∧
    ∀ answered response, ended.1 = .ok (answered, response) →
      answered = last ∧ place? last response = none
  few : followed.length ≤ hops

theorem settled_failed (hops : Nat) (w : World) (r : Request) (stop : Stop) :
    Settled hops w r [] (.error stop, w) :=
  ⟨⟨r, .stays w r, by simp⟩, Nat.zero_le hops⟩

theorem settled_stays (hops : Nat) (w : World) {r : Request} {response : Response}
    (stays : (place? r response).map Url.parse = none) :
    Settled hops w r [] (.ok (r, response), w) := by
  refine ⟨⟨r, .stays w r, ?_⟩, Nat.zero_le hops⟩
  rintro _ _ ⟨⟩
  exact ⟨rfl, Option.map_eq_none_iff.mp stays⟩

/-- By induction on the hops that are left: each response that is followed uses up one of them. -/
theorem settled_settle (first : Url) (hops : Nat) (r : Request) (reply : Reply) (w : World) :
    ∃ followed, Settled hops w r followed ((settle first hops r reply).run.run w) := by
  induction hops generalizing r reply w with
  | zero =>
    cases reply with
    | closed | silent => exact ⟨[], settled_failed 0 w r _⟩
    | response response =>
      rw [settle]
      split
      · next stays => exact ⟨[], settled_stays _ w stays⟩
      · exact ⟨[], settled_failed 0 w r _⟩
      · exact ⟨[], settled_failed 0 w r _⟩
  | succ hops ih =>
    cases reply with
    | closed | silent => exact ⟨[], settled_failed _ w r _⟩
    | response response =>
      rw [settle]
      split
      · next stays => exact ⟨[], settled_stays _ w stays⟩
      · exact ⟨[], settled_failed _ w r _⟩
      · next next sent =>
        dsimp only
        split
        · obtain ⟨followed, ⟨last, pursued, ends⟩, few⟩ := ih (onward r response.status next)
            (w.pursue (onward r response.status next)).1 (w.pursue (onward r response.status next)).2
          exact ⟨_ :: followed, ⟨last, .moves response sent pursued, ends⟩, Nat.succ_le_succ few⟩
        · exact ⟨[], settled_failed _ w r _⟩

theorem run_send (r : Request) (w : World) :
    (send r).run.run w = (settle r.url maxHops r (w.exchange r).1).run.run (w.exchange r).2 := rfl

theorem settled_send (r : Request) (w : World) :
    ∃ followed, Settled maxHops (w.exchange r).2 r followed ((send r).run.run w) :=
  settled_settle r.url maxHops r _ _

/-- A request is sent once, and what is sent behind it are requests that were sent elsewhere. -/
theorem send_events (r : Request) (w : World) :
    ∃ followed : List Event, ((send r).run.run w).2.events = w.events ++ .request r :: followed ∧
      ∀ e ∈ followed, ∃ r, e = .followUp r := by
  obtain ⟨followed, ⟨last, pursued, -⟩, -⟩ := settled_send r w
  refine ⟨followed.map .followUp, ?_, fun e he => ?_⟩
  · simp [pursued.events, World.exchange_events]
  · obtain ⟨next, -, rfl⟩ := List.mem_map.mp he
    exact ⟨next, rfl⟩

theorem run_send_of_final {r : Request} {w : World}
    (final : ∀ response, (w.exchange r).1 = .response response → place? r response = none) :
    (send r).run.run w = (match (w.exchange r).1 with
      | .response response => .ok (r, response)
      | .closed => .error (.fault (.http (.noResponse r.url.text)))
      | .silent => .error .unanswered, (w.exchange r).2) := by
  rw [run_send]
  cases reply : (w.exchange r).1 with
  | closed | silent => rfl
  | response response =>
    rw [settle_of_none _ _ (final response reply)]
    rfl

theorem final_of_direct {w : World} (direct : w.Direct) (r : Request) (response : Response)
    (h : (w.exchange r).1 = .response response) : place? r response = none := by
  obtain ⟨p, there, -, reply⟩ := World.reply_of_ask h
  exact direct p there r response reply

theorem keepsDirect_send (r : Request) : Within World.KeepsDirect (send r) := by
  intro w direct
  have peers : (w.exchange r).2.peers ⊆ w.peers := World.ask_peers (w.record (.request r)) r
  rw [run_send_of_final (final_of_direct direct r)]
  exact ⟨fun p there => direct p (peers there), [.request r], World.exchange_events w r, by simp⟩

theorem received_world {α : Type} (r : Request) (a : Option α) (w : World) :
    ((received r a).run.run w).2 = w := by
  cases a <;> rfl

section
variable {R : World → World → Prop} [World.Frame R]

theorem within_of_pursued {w w' : World} {r last : Request} {followed : List Request}
    (h : Pursued w r followed last w') (pursues : ∀ w r, R w (w.pursue r).2) : R w w' := by
  induction h with
  | stays => exact World.Frame.refl _
  | moves response sent more ih => exact World.Frame.trans (pursues _ _) ih

theorem within_send {r : Request} (exchanges : ∀ w, R w (w.exchange r).2)
    (pursues : ∀ w followed, R w (w.pursue followed).2) : Within R (send r) := by
  intro w
  obtain ⟨followed, ⟨last, pursued, -⟩, -⟩ := settled_send r w
  exact World.Frame.trans (exchanges w) (within_of_pursued pursued pursues)

theorem within_received {α : Type} (r : Request) (a : Option α) : Within R (received r a) := by
  intro w
  rw [received_world]
  exact World.Frame.refl w

end
end Http
end HopProbe
