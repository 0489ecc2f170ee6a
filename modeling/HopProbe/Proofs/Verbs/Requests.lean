import HopProbe.Proofs.Verbs.Change
import HopProbe.Proofs.Verbs.Remainder

/-!
# The requests of a step

Only a command that forwards sends a POST, and it sends nothing else. What the
other verbs send to a peer or to a blob service has no body but the value that
a blob is given.
-/

set_option autoImplicit false

namespace HopProbe.Verbs
open HopProbe.Text

theorem Http.request_of_get {action : Http.Action} {remainder : String}
    {sent : HopProbe.Http.Request} (get : action.method = .get)
    (h : Http.request action remainder = .ok sent) : sent.method = .get ∧ sent.body = [] := by
  unfold Http.request at h
  split at h
  · contradiction
  · rw [get] at h
    obtain ⟨-, -, method, -, body⟩ := HopProbe.Http.prepare_ok h
    constructor
    · exact method
    · rw [body]
      exact List.prefix_nil.mp (HopProbe.Http.sentBody_front _ _)

theorem Http.request_of_post {action : Http.Action} {remainder : String}
    {sent : HopProbe.Http.Request} (post : action.method = .post)
    (h : Http.request action remainder = .ok sent) :
    sent.method = .post ∧ sent.body <+: Utf8.bytes remainder ∧
      (sent.body = Utf8.bytes remainder ↔ ¬ action.fields.Cut (Utf8.bytes remainder)) := by
  unfold Http.request at h
  split at h
  · contradiction
  · rw [post] at h
    obtain ⟨-, -, method, -, -⟩ := HopProbe.Http.prepare_ok h
    exact ⟨method, HopProbe.Http.body_prepared h (by decide) (by decide)⟩

theorem getElem?_of_argument {verb : Verb} {args : List String} {position : Nat}
    {name arg : String} (h : argument verb args position name = .ok arg) :
    args[position]? = some arg := by
  unfold argument at h
  cases ha : args[position]? with
  | none =>
    rw [ha] at h
    cases h
  | some found =>
    rw [ha] at h
    cases h
    rfl

theorem Blob.value_of_read {args : List String} {action : Blob.Action} {value : String}
    (h : Blob.read args = .ok action) (put : action.operation = .put value) :
    args[4]? = some value := by
  obtain ⟨word, -, h⟩ := bind_eq_ok h
  obtain ⟨container, -, h⟩ := bind_eq_ok h
  obtain ⟨blob, -, h⟩ := bind_eq_ok h
  obtain ⟨endpoint, -, h⟩ := bind_eq_ok h
  obtain ⟨operation, hop, h⟩ := bind_eq_ok h
  cases h
  obtain rfl : operation = .put value := put
  unfold Blob.readOperation at hop
  split at hop
  · cases hop
  · split at hop
    · cases written : argument .blob args 4 "value" with
      | error e =>
        rw [written] at hop
        cases hop
      | ok arg =>
        rw [written] at hop
        cases hop
        exact getElem?_of_argument written
    · cases hop

/-- A request that hands nothing on: no POST, and no body but the value of the line. -/
def HandsNothing (args : List String) (r : HopProbe.Http.Request) : Prop :=
  r.method ≠ .post ∧ (r.body = [] ∨ ∃ value, args[4]? = some value ∧ r.body = Utf8.bytes value)

theorem handsNothing_of_canSend {v : Verb} {args : List String} {context : Context}
    {r : HopProbe.Http.Request} (quiet : (builtinHandler v).forwards args = false)
    (h : CanSend v args context r) : HandsNothing args r := by
  cases v with
  | http =>
    obtain ⟨action, read, made⟩ := h
    have get : action.method = .get := by
      have decided := Http.forwards_of_read read
      have other : Http.forwards args = false := quiet
      cases hm : action.method with
      | get => rfl
      | post => simp [other, hm] at decided
    obtain ⟨method, body⟩ := Http.request_of_get get made
    exact ⟨by simp [method], Or.inl body⟩
  | blob =>
    obtain ⟨action, read, other, body⟩ := h
    refine ⟨other, ?_⟩
    rcases body with empty | ⟨value, put, whole⟩
    · exact Or.inl empty
    · exact Or.inr ⟨value, Blob.value_of_read read put, whole⟩
  | _ => exact h.elim

theorem builtin_quiet {command : Script.Command} (quiet : builtin.forwards command = false)
    (context : Context) (w : World) :
    ∃ sent, (builtin.execute command context w).2.events = w.events ++ sent ∧
      ∀ r, .request r ∈ sent → HandsNothing command.args r := by
  obtain ⟨sent, added, kind⟩ := World.changesBy_events (builtin_changesBy command context w)
  refine ⟨sent, added, ?_⟩
  intro r hr
  obtain ⟨v, named, can⟩ := kind r hr
  have silent : (builtinHandler v).forwards command.args = false := by
    simpa [Registry.forwards, Registry.resolve, named, handler?_builtin] using quiet
  exact handsNothing_of_canSend silent can

/-- A step that forwards sends its POST and can follow it, or does nothing at all. -/
theorem builtin_forward {command : Script.Command} (forward : builtin.forwards command = true)
    (context : Context) (w : World) :
    (builtin.execute command context w).2 = w ∨
      ∃ action sent, Http.read command.args = .ok action ∧ action.method = .post ∧
        Http.request action context.remainderScript = .ok sent ∧
        (builtin.execute command context w).2 = ((HopProbe.Http.send sent).run.run w).2 := by
  obtain ⟨args, rfl⟩ := (builtin_forwards command).mp forward
  cases read : Http.read ("POST" :: args) with
  | error e =>
    left
    have unread : Http.phases.read ("POST" :: args) = .error e := read
    have executed : builtin.execute ⟨"HTTP", "POST" :: args⟩ context w =
        Http.probe.execute ("POST" :: args) context w := execute_builtin .http _ context w
    rw [executed, Http.phases.execute_of_read_error unread]
  | ok action =>
    have post : action.method = .post := (Http.forwards_of_read read).mp rfl
    rw [Http.execute_world read, Http.perform_world]
    cases made : Http.request action context.remainderScript with
    | error e => exact Or.inl rfl
    | ok sent =>
      dsimp only
      split
      · exact Or.inl rfl
      · exact Or.inr ⟨action, sent, rfl, post, made, rfl⟩

end HopProbe.Verbs
