import HopProbe.Proofs.Verbs.Reading

/-!
# Who reads the lines not yet started

Of the built-in verbs only HTTP forwards, and only as POST. Every other
command does the same whatever lines are behind its own.
-/

set_option autoImplicit false

namespace HopProbe

def Script.posts (line : String) : Bool :=
  match Script.Command.parse line with
  | some ⟨"HTTP", "POST" :: _⟩ => true
  | _ => false

theorem Script.posts_iff (line : String) :
    posts line = true ↔ ∃ args, Command.parse line = some ⟨"HTTP", "POST" :: args⟩ := by
  unfold posts
  split
  · rename_i args h
    exact ⟨fun _ => ⟨args, h⟩, fun _ => rfl⟩
  · rename_i none
    exact ⟨fun h => by contradiction, fun ⟨args, h⟩ => absurd h (none args)⟩

theorem Verb.name_of_ofName? {s : String} {v : Verb} (h : ofName? s = some v) : v.name = s := by
  simpa using List.find?_some h

namespace Verbs

theorem forwards_builtinHandler (v : Verb) (args : List String) :
    (builtinHandler v).forwards args = true ↔ v = .http ∧ ∃ rest, args = "POST" :: rest := by
  cases v with
  | http =>
    cases args with
    | nil => simp [builtinHandler, Probe.handler, Http.probe, Http.forwards]
    | cons word rest => simp [builtinHandler, Probe.handler, Http.probe, Http.forwards]
  | _ => exact ⟨fun h => by contradiction, fun h => by simp at h⟩

theorem builtin_forwards (command : Script.Command) :
    builtin.forwards command = true ↔ ∃ args, command = ⟨"HTTP", "POST" :: args⟩ := by
  obtain ⟨verb, args⟩ := command
  cases hv : Verb.ofName? verb with
  | none =>
    have other : verb ≠ "HTTP" := by
      rintro rfl
      contradiction
    simp [Registry.forwards, Registry.resolve, hv, other]
  | some v =>
    have name := Verb.name_of_ofName? hv
    have handled : builtin.forwards ⟨verb, args⟩ = (builtinHandler v).forwards args := by
      simp [Registry.forwards, Registry.resolve, hv, handler?_builtin]
    rw [handled, forwards_builtinHandler, ← name]
    cases v <;> simp [Verb.name]

theorem bind_eq_ok {ε α β : Type} {x : Except ε α} {f : α → Except ε β} {b : β}
    (h : x >>= f = .ok b) : ∃ a, x = .ok a ∧ f a = .ok b := by
  cases x with
  | error e => cases h
  | ok a => exact ⟨a, rfl, h⟩

theorem Http.forwards_of_read {args : List String} {action : Http.Action}
    (h : Http.read args = .ok action) :
    Http.forwards args = true ↔ action.method = .post := by
  obtain ⟨word, hword, h⟩ := bind_eq_ok h
  obtain ⟨method, hmethod, h⟩ := bind_eq_ok h
  obtain ⟨url, -, h⟩ := bind_eq_ok h
  have read : action.method = method := by
    cases hl : args[2]? with
    | none =>
      rw [hl] at h
      cases h
      rfl
    | some list =>
      rw [hl] at h
      obtain ⟨fields, -, h⟩ := bind_eq_ok h
      cases h
      rfl
  have head : args.head? = some word := by
    cases args with
    | nil => contradiction
    | cons first rest =>
      cases hword
      rfl
  rw [read]
  unfold Http.Method.read at hmethod
  split at hmethod
  · rename_i get
    cases hmethod
    simp [Http.forwards, head, get]
  · split at hmethod
    · rename_i post
      cases hmethod
      simp [Http.forwards, head, post]
    · contradiction

theorem Http.execute_remainder {args : List String} (h : Http.forwards args = false)
    (remainder remainder' : List String) (request : HopProbe.Inbound) (w : World) :
    Http.probe.execute args ⟨remainder, request⟩ w =
      Http.probe.execute args ⟨remainder', request⟩ w := by
  cases hr : Http.read args with
  | error e =>
    rw [Http.phases.execute_of_read_error hr, Http.phases.execute_of_read_error hr]
  | ok action =>
    have get : action.method = .get := by
      have decided := Http.forwards_of_read hr
      cases hm : action.method with
      | get => rfl
      | post => simp [h, hm] at decided
    have same : Http.perform action ⟨remainder, request⟩ =
        Http.perform action ⟨remainder', request⟩ := by
      simp only [Http.perform, Http.request, get]
    rw [Http.phases.execute_of_read_ok hr, Http.phases.execute_of_read_ok hr]
    exact congrArg (fun e => e.outcome w) same

/-- A handler that does the same whatever is behind its line, where it does not forward. -/
theorem builtinHandler_remainder (v : Verb) {args : List String}
    (h : (builtinHandler v).forwards args = false) (remainder remainder' : List String)
    (request : Inbound) (w : World) :
    (builtinHandler v).execute args ⟨remainder, request⟩ w =
      (builtinHandler v).execute args ⟨remainder', request⟩ w := by
  cases v with
  | http => exact Http.execute_remainder h remainder remainder' request w
  | _ => rfl

theorem builtin_remainder {command : Script.Command} (h : builtin.forwards command = false)
    (remainder remainder' : List String) (request : Inbound) (w : World) :
    builtin.execute command ⟨remainder, request⟩ w =
      builtin.execute command ⟨remainder', request⟩ w := by
  cases hv : Verb.ofName? command.verb with
  | none => simp [Registry.execute, Registry.resolve, hv]
  | some v =>
    have quiet : (builtinHandler v).forwards command.args = false := by
      simpa [Registry.forwards, Registry.resolve, hv, handler?_builtin] using h
    simpa [Registry.execute, Registry.resolve, hv, handler?_builtin] using
      builtinHandler_remainder v quiet remainder remainder' request w

end Verbs
end HopProbe
