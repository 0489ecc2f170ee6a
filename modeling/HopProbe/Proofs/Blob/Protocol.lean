import HopProbe.Proofs.Blob.Within
import HopProbe.Proofs.Verbs.Requests

/-!
# The calls of a blob step

An operation is a fixed list of calls. A step makes the first when its line is
complete and its endpoint can hold a path, and each further one when the
response to the one before was accepted. It succeeds when it came through the
whole list; a response that was not accepted is what it fails with. The response
to a call is one that stays: those that send its request elsewhere are followed.
-/

set_option autoImplicit false

namespace HopProbe.Blob
open HopProbe.Http

/-- One request of a protocol, and the statuses with which it goes on. -/
structure Call where
  operation : String
  accepted : Nat → Bool
  method : Method
  url : Url
  fields : Fields
  body : List UInt8

namespace Call

def request (call : Call) : Except Failure Request :=
  prepare call.method call.url call.fields [] call.body

def send (call : Call) : Effect (Request × Response) :=
  Container.exchange call.operation call.accepted call.method (.ok call.url) call.fields call.body

def failure (call : Call) (response : Response) : Fault :=
  .blob (call.operation ++ " returned " ++ toString response.status ++ " " ++
    reason response.status ++ ": " ++ Text.trim (response.text?.getD ""))

theorem refusal_eq (call : Call) (response : Response) :
    Container.refusal call.operation response = call.failure response := by
  simp [Container.refusal, failure, Response.statusText, Response.explanation, String.append_assoc]

/-- How the effect of a call ends, by the response that stays. -/
inductive Ended (call : Call) : Option Response → Except Stop (Request × Response) → Prop
  | accepted (r : Request) {response : Response} (yes : call.accepted response.status = true) :
    Ended call (some response) (.ok (r, response))
  | refused {response : Response} (no : call.accepted response.status = false) :
    Ended call (some response) (.error (.fault (call.failure response)))
  | nothing (stop : Stop) : Ended call none (.error stop)

end Call

/-- A call that was made: the requests that were sent on for its own, and the response that stays,
where one arrives. -/
structure Try where
  call : Call
  followed : List Request
  answer : Option Response

namespace Try

def events (t : Try) : List Event :=
  t.call.request.toOption.toList.map .request ++ t.followed.map .followUp

def response? : Except Stop (Request × Response) → Option Response
  | .ok (_, response) => some response
  | .error _ => none

structure Made (t : Try) (w w' : World) : Prop where
  unsent : ∀ e, t.call.request = .error e → t.followed = [] ∧ t.answer = none ∧ w' = w
  sent : ∀ r, t.call.request = .ok r → ∃ result, (Http.send r).run.run w = (result, w') ∧
    t.answer = response? result ∧ Settled 10 (w.exchange r).2 r t.followed (result, w')

theorem Made.events {t : Try} {w w' : World} (h : t.Made w w') :
    w'.events = w.events ++ t.events := by
  unfold Try.events
  cases made : t.call.request with
  | error e =>
    obtain ⟨none, -, same⟩ := h.unsent e made
    simp [none, same, Except.toOption]
  | ok r =>
    obtain ⟨result, -, -, ⟨last, pursued, -⟩, -⟩ := h.sent r made
    have events : w'.events = _ := pursued.events
    simp [events, World.exchange_events, Except.toOption]

end Try

theorem Call.run_send_eq (call : Call) (w : World) :
    call.send.run.run w = match call.request with
      | .error e => (.error (.fault (.http e)), w)
      | .ok r => match (Http.send r).run.run w with
        | (.error stop, next) => (.error stop, next)
        | (.ok (answered, response), next) =>
          if call.accepted response.status then (.ok (answered, response), next)
          else (.error (.fault (call.failure response)), next) := by
  unfold send Container.exchange
  rw [Effect.run_bind, Effect.run_ofExcept_ok]
  dsimp only
  rw [Effect.run_bind, ← request]
  cases call.request with
  | error e => rw [Effect.run_ofExcept_error]
  | ok r =>
    rw [Effect.run_ofExcept_ok]
    dsimp only
    rw [Effect.run_bind]
    rcases (Http.send r).run.run w with ⟨stop | ⟨answered, response⟩, next⟩
    · rfl
    · dsimp only
      rw [← refusal_eq]
      split
      · rfl
      · rfl

theorem Call.run_send (call : Call) (w : World) :
    ∃ (t : Try) (result : _) (next : World), t.call = call ∧ call.send.run.run w = (result, next) ∧
      t.Made w next ∧ call.Ended t.answer result := by
  rw [run_send_eq]
  cases made : call.request with
  | error e =>
    refine ⟨⟨call, [], none⟩, _, w, rfl, rfl, ⟨fun _ _ => ⟨rfl, rfl, rfl⟩, ?_⟩, .nothing _⟩
    intro r other
    rw [made] at other
    cases other
  | ok r =>
    dsimp only
    obtain ⟨followed, settled⟩ := settled_send r w
    rcases sent : (Http.send r).run.run w with ⟨result, next⟩
    rw [sent] at settled
    have done : (⟨call, followed, Try.response? result⟩ : Try).Made w next := by
      constructor
      · intro e other
        rw [made] at other
        cases other
      · intro _ same
        obtain rfl := Except.ok.inj (made.symm.trans same)
        exact ⟨result, sent, rfl, settled⟩
    cases result with
    | error stop => exact ⟨_, _, next, rfl, rfl, done, .nothing _⟩
    | ok arrived =>
      obtain ⟨answered, response⟩ := arrived
      dsimp only
      cases status : call.accepted response.status with
      | true => exact ⟨_, _, next, rfl, if_pos rfl, done, .accepted answered status⟩
      | false => exact ⟨_, _, next, rfl, if_neg Bool.false_ne_true, done, .refused status⟩

theorem Try.Made.run_send {t : Try} {w next : World} {response : Response} (h : t.Made w next)
    (answered : t.answer = some response) (accepted : t.call.accepted response.status = true) :
    ∃ r, t.call.send.run.run w = (.ok (r, response), next) := by
  rw [Call.run_send_eq]
  cases made : t.call.request with
  | error e =>
    obtain ⟨-, none, -⟩ := h.unsent e made
    rw [answered] at none
    cases none
  | ok r =>
    obtain ⟨result, sent, same, -⟩ := h.sent r made
    rw [answered] at same
    cases result with
    | error stop => cases same
    | ok arrived =>
      obtain ⟨last, _⟩ := arrived
      cases same
      exact ⟨last, by simp only [sent, accepted, if_true]⟩

theorem Try.made_of_final {call : Call} {r : Request} {w : World} {response : Response}
    (made : call.request = .ok r) (replied : (w.exchange r).1 = .response response)
    (final : place? r response = none) :
    (⟨call, [], some response⟩ : Try).Made w (w.exchange r).2 := by
  constructor
  · intro e other
    rw [made] at other
    cases other
  · intro _ same
    obtain rfl := Except.ok.inj (made.symm.trans same)
    refine ⟨.ok (r, response), ?_, rfl, ⟨r, .stays _ r, ?_⟩, Nat.zero_le 10⟩
    · rw [Http.run_send, replied, settle_of_none _ _ final]
      rfl
    · rintro _ _ ⟨⟩
      exact ⟨rfl, final⟩

inductive Tried : World → List Try → World → Prop
  | none (w : World) : Tried w [] w
  | call {t : Try} {w next last : World} {rest : List Try} (made : t.Made w next)
    (more : Tried next rest last) : Tried w (t :: rest) last

theorem Tried.events {w last : World} {tried : List Try} (h : Tried w tried last) :
    last.events = w.events ++ tried.flatMap Try.events := by
  induction h with
  | none w => simp
  | call made more ih => rw [ih, made.events, List.flatMap_cons, List.append_assoc]

/-- Of a protocol the front was called: one more call behind each response that was accepted. -/
structure Keeps (protocol : List Call) (tried : List Try) : Prop where
  front : tried.map Try.call <+: protocol
  further : ∀ k, k + 1 < protocol.length → (k + 1 < tried.length ↔
    ∃ t response, tried[k]? = some t ∧ t.answer = some response ∧
      t.call.accepted response.status = true)

theorem keeps_stopped {t : Try}
    (h : ∀ response, t.answer = some response → t.call.accepted response.status = false)
    (rest : List Call) : Keeps (t.call :: rest) [t] := by
  refine ⟨⟨rest, rfl⟩, fun k _ => iff_of_false (by simp) ?_⟩
  rintro ⟨_, response, there, answered, accepted⟩
  cases k with
  | zero =>
    cases there
    rw [h response answered] at accepted
    cases accepted
  | succ k => simp at there

theorem keeps_ended (t : Try) : Keeps [t.call] [t] :=
  ⟨List.prefix_rfl, fun k inside => absurd inside (by simp)⟩

theorem Keeps.cons {t : Try} {response : Response} {rest : List Call} {tried : List Try}
    (answered : t.answer = some response) (accepted : t.call.accepted response.status = true)
    (begun : tried ≠ []) (h : Keeps rest tried) : Keeps (t.call :: rest) (t :: tried) := by
  refine ⟨(List.prefix_cons_inj t.call).mpr h.front, fun k inside => ?_⟩
  cases k with
  | zero =>
    refine iff_of_true ?_ ⟨t, response, rfl, answered, accepted⟩
    have longer := List.length_pos_iff.mpr begun
    simpa using longer
  | succ k =>
    have further := h.further k (by simpa using inside)
    simpa using further

def follow (last : Request × Response → Effect String) : Call → List Call → Effect String
  | call, [] => call.send >>= last
  | call, next :: rest => call.send >>= fun _ => follow last next rest

/-- What a run through a protocol has come to: a text, just if all was called and the last
response was accepted and good; the failure of a response, if it was not accepted. -/
structure Ends (good : Response → Prop) (protocol : List Call) (tried : List Try)
    (result : Except Stop String) : Prop where
  finished : (∃ text, result = .ok text) ↔ tried.map Try.call = protocol ∧
    ∃ t response, tried.getLast? = some t ∧ t.answer = some response ∧
      t.call.accepted response.status = true ∧ good response
  refused : ∀ t ∈ tried, ∀ response, t.answer = some response →
    t.call.accepted response.status = false → result = .error (.fault (t.call.failure response))

theorem ends_stopped {good : Response → Prop} {t : Try} {result : Except Stop String}
    (h : ∀ response, t.answer = some response → t.call.accepted response.status = false ∧
      result = .error (.fault (t.call.failure response)))
    (stopped : ∃ stop, result = .error stop) (rest : List Call) :
    Ends good (t.call :: rest) [t] result := by
  constructor
  · refine iff_of_false ?_ ?_
    · rintro ⟨text, rfl⟩
      obtain ⟨stop, other⟩ := stopped
      cases other
    · rintro ⟨-, last, response, there, answered, accepted, -⟩
      obtain rfl : t = last := by simpa using there
      rw [(h response answered).1] at accepted
      cases accepted
  · intro other there response answered _
    obtain rfl := List.mem_singleton.mp there
    exact (h response answered).2

theorem ends_last {good : Response → Prop} {t : Try} {response : Response}
    {result : Except Stop String} (answered : t.answer = some response)
    (accepted : t.call.accepted response.status = true)
    (ended : (∃ text, result = .ok text) ↔ good response) : Ends good [t.call] [t] result := by
  constructor
  · rw [ended]
    simp [answered, accepted]
  · intro other there response' answered' refused
    obtain rfl := List.mem_singleton.mp there
    obtain rfl := Option.some.inj (answered.symm.trans answered')
    rw [accepted] at refused
    cases refused

theorem Ends.cons {good : Response → Prop} {t : Try} {response : Response} {rest : List Call}
    {tried : List Try} {result : Except Stop String} (answered : t.answer = some response)
    (accepted : t.call.accepted response.status = true) (begun : tried ≠ [])
    (h : Ends good rest tried result) : Ends good (t.call :: rest) (t :: tried) result := by
  constructor
  · rw [h.finished, List.getLast?_cons_of_ne_nil begun]
    simp
  · intro other there response' answered' refused
    rcases List.mem_cons.mp there with rfl | there
    · obtain rfl := Option.some.inj (answered.symm.trans answered')
      rw [accepted] at refused
      cases refused
    · exact h.refused other there response' answered' refused

/-- What is made of a response changes nothing, and is a text just if the response is good. -/
def Concludes (last : Request × Response → Effect String) (good : Response → Prop) : Prop :=
  ∀ r response w, ∃ result, (last (r, response)).run.run w = (result, w) ∧
    ((∃ text, result = .ok text) ↔ good response)

theorem stopped_run {good : Response → Prop} {t : Try} {stop : Stop} {w next : World}
    (made : t.Made w next) (ended : t.call.Ended t.answer (.error stop)) (rest : List Call) :
    ∃ tried, Tried w tried next ∧ tried ≠ [] ∧ Keeps (t.call :: rest) tried ∧
      Ends good (t.call :: rest) tried (.error stop) := by
  have refused (response : Response) (there : t.answer = some response) :
      t.call.accepted response.status = false ∧
        (.error stop : Except Stop String) = .error (.fault (t.call.failure response)) := by
    rw [there] at ended
    cases ended with
    | refused no => exact ⟨no, rfl⟩
  refine ⟨[t], .call made (.none next), by simp, ?_, ?_⟩
  · exact keeps_stopped (fun response there => (refused response there).1) rest
  · exact ends_stopped refused ⟨stop, rfl⟩ rest

theorem Call.Ended.of_ok {call : Call} {answer : Option Response} {r : Request}
    {response : Response} (h : call.Ended answer (.ok (r, response))) :
    answer = some response ∧ call.accepted response.status = true := by
  cases h with
  | accepted r yes => exact ⟨rfl, yes⟩

theorem follow_run {last : Request × Response → Effect String} {good : Response → Prop}
    (concludes : Concludes last good) (call : Call) (rest : List Call) (w : World) :
    ∃ tried result next, (follow last call rest).run.run w = (result, next) ∧
      Tried w tried next ∧ tried ≠ [] ∧ Keeps (call :: rest) tried ∧
      Ends good (call :: rest) tried result := by
  induction rest generalizing call w with
  | nil =>
    obtain ⟨t, sent, next, rfl, ran, made, ended⟩ := call.run_send w
    rw [follow, Effect.run_bind, ran]
    cases sent with
    | error stop =>
      obtain ⟨tried, done⟩ := stopped_run made ended []
      exact ⟨tried, _, next, rfl, done⟩
    | ok arrived =>
      obtain ⟨r, response⟩ := arrived
      obtain ⟨answered, yes⟩ := ended.of_ok
      obtain ⟨result, last, fine⟩ := concludes r response next
      exact ⟨[t], result, next, last, .call made (.none next), by simp, keeps_ended t,
        ends_last answered yes fine⟩
  | cons second rest ih =>
    obtain ⟨t, sent, next, rfl, ran, made, ended⟩ := call.run_send w
    rw [follow, Effect.run_bind, ran]
    cases sent with
    | error stop =>
      obtain ⟨tried, done⟩ := stopped_run made ended (second :: rest)
      exact ⟨tried, _, next, rfl, done⟩
    | ok arrived =>
      obtain ⟨r, response⟩ := arrived
      obtain ⟨answered, yes⟩ := ended.of_ok
      obtain ⟨tried, result, behind, run, later, begun, keeps, ends⟩ := ih second next
      exact ⟨t :: tried, result, behind, run, .call made later, by simp,
        keeps.cons answered yes begun, ends.cons answered yes begun⟩

/-- What `BLOB` asks of a service at the addresses of a container and a blob in it. -/
def protocol (home address : Url) : Verbs.Blob.Operation → List Call
  | .get => [creation home, ⟨"download", isSuccess, .get, address, [versionField], []⟩]
  | .put value => [creation home,
    ⟨"delete", fun s => isSuccess s || s == 404, .delete, address, [versionField], []⟩,
    ⟨"upload", isSuccess, .put, address, [versionField, typeField], Text.Utf8.bytes value⟩]
where
  creation (home : Url) : Call :=
    ⟨"create container", fun s => s == 201 || s == 409, .put, home, [versionField], []⟩

def Whole (operation : Verbs.Blob.Operation) (response : Response) : Prop :=
  operation = .get → response.content?.isSome = true

def conclude : Verbs.Blob.Operation → Request × Response → Effect String
  | .get, (request, response) => do return contentText (← received request response.content?)
  | .put _, (_, response) => return "Wrote " ++ (response.fields.plain? "etag").getD ""

theorem concludes_conclude (operation : Verbs.Blob.Operation) :
    Concludes (conclude operation) (Whole operation) := by
  intro r response w
  cases operation with
  | get =>
    cases body : response.content? with
    | some content =>
      refine ⟨.ok (contentText content), ?_, by simp [Whole, body]⟩
      simp only [conclude, body]
      rfl
    | none =>
      refine ⟨.error (.fault (.http (.brokenBody r.url.withoutFragment.text))), ?_, by
        simp [Whole, body]⟩
      simp only [conclude, body]
      rfl
  | put value => exact ⟨_, rfl, by simp [Whole]⟩

theorem perform_eq {action : Verbs.Blob.Action} {e : Endpoint} {home address : Url}
    (parsed : Endpoint.parse action.endpoint = .ok e)
    (atHome : e.url [action.container] (some "restype=container") = .ok home)
    (atBlob : e.url [action.container, action.blob] none = .ok address) (context : Context) :
    ∃ first rest, protocol home address action.operation = first :: rest ∧
      Verbs.Blob.perform action context = follow (conclude action.operation) first rest := by
  unfold Verbs.Blob.perform
  rw [openContainer_of_parse parsed, pure_bind]
  have homeUrl : Container.containerUrl ⟨e, action.container⟩ = .ok home := atHome
  have blobUrl : Container.blobUrl ⟨e, action.container⟩ action.blob = .ok address := atBlob
  simp only [Container.create, homeUrl, bind_assoc, pure_bind]
  cases action.operation with
  | get =>
    refine ⟨_, _, rfl, ?_⟩
    simp only [Container.download, blobUrl, bind_assoc, follow]
    rfl
  | put value =>
    refine ⟨_, _, rfl, ?_⟩
    simp only [Container.delete, Container.upload, blobUrl, bind_assoc, pure_bind, follow]
    rfl

inductive Complete : List String → Verbs.Blob.Action → Prop
  | get (container blob endpoint : String) (more : List String) :
    Complete ("GET" :: container :: blob :: endpoint :: more) ⟨.get, container, blob, endpoint⟩
  | put (container blob endpoint value : String) (more : List String) :
    Complete ("PUT" :: container :: blob :: endpoint :: value :: more)
      ⟨.put value, container, blob, endpoint⟩

theorem read_eq_ok_iff {args : List String} {action : Verbs.Blob.Action} :
    Verbs.Blob.read args = .ok action ↔ Complete args action := by
  constructor
  · intro h
    obtain ⟨word, first, h⟩ := Verbs.bind_eq_ok h
    obtain ⟨container, second, h⟩ := Verbs.bind_eq_ok h
    obtain ⟨blob, third, h⟩ := Verbs.bind_eq_ok h
    obtain ⟨endpoint, fourth, h⟩ := Verbs.bind_eq_ok h
    obtain ⟨operation, known, h⟩ := Verbs.bind_eq_ok h
    cases h
    have there {i : Nat} {name arg : String} (h : argument .blob args i name = .ok arg) :
        args[i]? = some arg := Verbs.getElem?_of_argument h
    obtain ⟨more, rfl⟩ : ∃ more, args = word :: container :: blob :: endpoint :: more := by
      match args, there first, there second, there third, there fourth with
      | _ :: _ :: _ :: _ :: more, rfl, rfl, rfl, rfl => exact ⟨more, rfl⟩
    unfold Verbs.Blob.readOperation at known
    split at known
    · next word =>
      cases known
      subst word
      exact .get container blob endpoint more
    · split at known
      · next word =>
        subst word
        cases given : argument .blob ("PUT" :: container :: blob :: endpoint :: more) 4 "value" with
        | error e =>
          rw [given] at known
          cases known
        | ok value =>
          rw [given] at known
          cases known
          match more, Verbs.getElem?_of_argument given with
          | _ :: more, rfl => exact .put container blob endpoint value more
      · cases known
  · intro h
    cases h with
    | get => rfl
    | put => rfl

/-- A line that a step can make its first call for. -/
structure Ready (args : List String) (action : Verbs.Blob.Action) (e : Endpoint) : Prop where
  complete : Complete args action
  parsed : Endpoint.parse action.endpoint = .ok e
  path : ∃ parts, e.base.route = .segments parts

/-- The form in which a signature stands in a query. -/
def Endpoint.written (e : Endpoint) (signature : String) : String :=
  Url.queryOf e.base.kind (Url.counted signature.toList)

structure Signed (e : Endpoint) (home address : Url) : Prop where
  bare : e.signature = none → home.query = some "restype=container"
  container : ∀ s, e.signature = some s → home.query = some ("restype=container&" ++ e.written s)
  blob : ∀ s, e.signature = some s → address.query = some (e.written s)

/-- Requests are sent with all that their calls have, the version among it. -/
def Carries (calls : List Call) : Prop :=
  ∀ call ∈ calls, versionField ∈ call.fields ∧ ∀ r, call.request = .ok r →
    r.method = call.method ∧ r.url.query = call.url.query ∧ call.fields ⊆ r.fields ∧
      r.body = call.body

theorem carries_protocol (home address : Url) (operation : Verbs.Blob.Operation) :
    Carries (protocol home address operation) := by
  intro call there
  have fields : call.fields = [versionField] ∨ call.fields = [versionField, typeField] := by
    cases operation with
    | get =>
      simp only [protocol, List.mem_cons, List.not_mem_nil, or_false] at there
      rcases there with rfl | rfl
      · exact Or.inl rfl
      · exact Or.inl rfl
    | put value =>
      simp only [protocol, List.mem_cons, List.not_mem_nil, or_false] at there
      rcases there with rfl | rfl | rfl
      · exact Or.inl rfl
      · exact Or.inl rfl
      · exact Or.inr rfl
  have version : versionField ∈ call.fields := by
    rcases fields with same | same <;> simp [same]
  have framing : "transfer-encoding" ∉ call.fields.names := by
    rcases fields with same | same <;> rw [same] <;> decide
  have length : "content-length" ∉ call.fields.names := by
    rcases fields with same | same <;> rw [same] <;> decide
  refine ⟨version, fun r made => ?_⟩
  obtain ⟨-, -, method, -, -⟩ := prepare_ok made
  have whole := (body_prepared made (by simp [Fields.names]) (by simp [Fields.names])).2
  have query := congrArg Url.query (sentTo_prepared made)
  exact ⟨method, query, subset_prepared made framing, whole.mpr (Fields.not_cut length call.body)⟩

theorem queryOf_append {kind : Url.SchemeKind} {front : String}
    (plain : Url.queryOf kind front.toList = front) (counts : Url.counted front.toList = front.toList)
    (s : String) : Url.queryOf kind (Url.counted (front ++ s).toList) =
      front ++ Url.queryOf kind (Url.counted s.toList) := by
  have counted : Url.counted (front ++ s).toList = front.toList ++ Url.counted s.toList := by
    rw [String.toList_append, Url.counted, List.filter_append, ← Url.counted, counts]
    rfl
  have split (cs ds : List Char) :
      Url.queryOf kind (cs ++ ds) = Url.queryOf kind cs ++ Url.queryOf kind ds := by
    simp only [Url.queryOf, Url.encodedText, Url.Percent.encode_append, String.ofList_append]
  rw [counted, split, plain]

theorem signed_urls {e : Endpoint} {parts : List (List Char)} (route : e.base.route = .segments parts)
    (container blob : String) :
    ∃ home address, e.url [container] (some "restype=container") = .ok home ∧
      e.url [container, blob] none = .ok address ∧ Signed e home address := by
  refine ⟨_, _, url_of_segments route _ _, url_of_segments route _ _, ?_, ?_, ?_⟩
  · intro none
    simp only [Endpoint.queryFor, none]
    cases e.base.kind <;> rfl
  · intro s there
    have given : Url.queryOf e.base.kind (Url.counted ("restype=container&" ++ s).toList) =
        "restype=container&" ++ e.written s := by
      apply queryOf_append
      · cases e.base.kind <;> rfl
      · rfl
    simp only [Endpoint.queryFor, there]
    exact congrArg some given
  · intro s there
    simp only [Endpoint.queryFor, there]
    rfl

theorem execute_of_read {args : List String} {action : Verbs.Blob.Action}
    (read : Verbs.Blob.read args = .ok action) (context : Context) (w : World) :
    (Verbs.builtinHandler .blob).execute args context w =
      (Verbs.Blob.perform action context).outcome w :=
  Verbs.Blob.phases.execute_of_read_ok read context w

theorem execute_of_not_ready {args : List String} (h : ¬ ∃ action e, Ready args action e)
    (context : Context) (w : World) :
    ∃ error, (Verbs.builtinHandler .blob).execute args context w = (.failed error, w) := by
  cases read : Verbs.Blob.read args with
  | error e => exact ⟨.usage e, Verbs.Blob.phases.execute_of_read_error read context w⟩
  | ok action =>
    rw [execute_of_read read]
    cases parsed : Endpoint.parse action.endpoint with
    | error e =>
      refine ⟨.fault (Container.fault e), ?_⟩
      simp only [Effect.outcome, Verbs.Blob.perform, openContainer, parsed, Effect.run_bind,
        Effect.run_ofExcept_error, Effect.attemptOf]
    | ok e =>
      cases route : e.base.route with
      | segments parts =>
        exact absurd ⟨action, e, read_eq_ok_iff.mp read, parsed, parts, route⟩ h
      | opaquePath text =>
        have noPath : Container.containerUrl ⟨e, action.container⟩ =
            .error (.noPath e.base.text) := by
          simp only [Container.containerUrl, Endpoint.url, Url.push?, route]
        refine ⟨.fault (Container.fault (.noPath e.base.text)), ?_⟩
        simp only [Effect.outcome, Verbs.Blob.perform, openContainer_of_parse parsed, pure_bind,
          Container.create, Container.exchange, noPath, Effect.run_bind, Effect.run_ofExcept_error,
          Effect.attemptOf]

theorem Ready.unique {args : List String} {action other : Verbs.Blob.Action} {e e' : Endpoint}
    (h : Ready args action e) (h' : Ready args other e') : action = other ∧ e = e' := by
  have read := read_eq_ok_iff.mpr h.complete
  rw [read_eq_ok_iff.mpr h'.complete] at read
  cases read
  have parsed := h.parsed
  rw [h'.parsed] at parsed
  cases parsed
  exact ⟨rfl, rfl⟩

theorem accepted_of_last {home address : Url} {operation : Verbs.Blob.Operation}
    {tried : List Try} {t : Try} (all : tried.map Try.call = protocol home address operation)
    (last : tried.getLast? = some t) : t.call.accepted = isSuccess := by
  have ends : (protocol home address operation).getLast? = some t.call := by
    rw [← all, List.getLast?_map, last]
    rfl
  cases operation with
  | get => exact (congrArg Call.accepted (Option.some.inj ends)).symm
  | put value => exact (congrArg Call.accepted (Option.some.inj ends)).symm

theorem Tried.not_followed {w last : World} {tried : List Try} (h : Tried w tried last)
    (keeps : World.KeepsDirect w last) (direct : w.Direct) : ∀ t ∈ tried, t.followed = [] := by
  have none := World.not_followUp_of_keepsDirect keeps h.events direct
  intro t there
  refine List.eq_nil_iff_forall_not_mem.mpr fun r hr => none r ?_
  exact List.mem_flatMap.mpr ⟨t, there, List.mem_append_right _ (List.mem_map_of_mem hr)⟩

/-- A step makes the calls of its protocol in order. All that it sends are the requests of these and
those that responses sent on, at most ten behind each. -/
theorem step_follows_protocol (args : List String) (context : Context) (w : World) :
    let step := (Verbs.builtinHandler .blob).execute args context w
    ∃ tried, Tried w tried step.2 ∧ step.2.events = w.events ++ tried.flatMap Try.events ∧
      (w.Direct → ∀ t ∈ tried, t.followed = []) ∧
      (tried ≠ [] ↔ ∃ action e, Ready args action e) ∧
      (tried = [] → ∃ error, step.1 = .failed error) ∧
      ∀ action e, Ready args action e → ∃ home address,
        e.url [action.container] (some "restype=container") = .ok home ∧
        e.url [action.container, action.blob] none = .ok address ∧ Signed e home address ∧
        Carries (protocol home address action.operation) ∧
        Keeps (protocol home address action.operation) tried ∧
        ((∃ text, step.1 = .finished text) ↔
          tried.map Try.call = protocol home address action.operation ∧
          ∃ t response, tried.getLast? = some t ∧ t.answer = some response ∧
            isSuccess response.status = true ∧ Whole action.operation response) ∧
        ∀ t ∈ tried, ∀ response, t.answer = some response →
          t.call.accepted response.status = false →
          step.1 = .failed (.fault (t.call.failure response)) := by
  intro step
  by_cases begins : ∃ action e, Ready args action e
  · obtain ⟨action, e, ready⟩ := begins
    obtain ⟨parts, route⟩ := ready.path
    obtain ⟨home, address, atHome, atBlob, signed⟩ :=
      signed_urls route action.container action.blob
    obtain ⟨first, rest, calls, same⟩ := perform_eq ready.parsed atHome atBlob context
    obtain ⟨tried, result, next, ran, made, begun, keeps, ends⟩ :=
      follow_run (concludes_conclude action.operation) first rest w
    rw [← same] at ran
    rw [← calls] at keeps ends
    have performed : step = (Verbs.Blob.perform action context).outcome w :=
      execute_of_read (read_eq_ok_iff.mpr ready.complete) context w
    have left : step.2 = next := by rw [performed, Effect.outcome_world, ran]
    rw [← left] at made
    refine ⟨tried, made, made.events,
      made.not_followed (Verbs.handler_keepsDirect .blob args context w),
      iff_of_true begun ⟨action, e, ready⟩, fun none => absurd none begun, ?_⟩
    intro other e' ready'
    obtain ⟨rfl, rfl⟩ := ready.unique ready'
    refine ⟨home, address, atHome, atBlob, signed, carries_protocol home address _, keeps, ?_, ?_⟩
    · simp only [performed, Effect.outcome_attempt, Effect.attemptOf_finished_iff, ran,
        ends.finished]
      refine and_congr_right fun all => ?_
      constructor
      · rintro ⟨t, response, last, answered, accepted, whole⟩
        exact ⟨t, response, last, answered, accepted_of_last all last ▸ accepted, whole⟩
      · rintro ⟨t, response, last, answered, success, whole⟩
        exact ⟨t, response, last, answered, accepted_of_last all last ▸ success, whole⟩
    · intro t there response answered refused
      rw [performed, Effect.outcome_attempt, ran, ends.refused t there response answered refused]
      rfl
  · obtain ⟨error, failed⟩ := execute_of_not_ready begins context w
    have idle : step = (.failed error, w) := failed
    rw [idle]
    refine ⟨[], .none w, by simp, by simp, iff_of_false (by simp) begins,
      fun _ => ⟨error, rfl⟩, ?_⟩
    intro action e ready
    exact absurd ⟨action, e, ready⟩ begins

/-- A service at the address of the machine itself that sends the creation of a container on. -/
def redirecting : World :=
  { World.still with peers :=
    [.fixed (some "PUT") "http://[::1]/logs?restype=container"
        (.response ⟨307, [⟨"location", "http://[::2]/x"⟩], [], true⟩) false,
      .fixed (some "PUT") "http://[::2]/x" (.response ⟨201, [], [], true⟩) false,
      .fixed (some "GET") "http://[::1]/logs/probe.txt"
        (.response ⟨200, [], Text.Utf8.bytes "hi", true⟩) false] }

/-- A response that sends the first request elsewhere puts another one between the two of a line
that reads a blob, and is no refusal. -/
theorem redirected_step_leaves_protocol :
    let step := (Verbs.builtinHandler .blob).execute
      ["GET", "logs", "probe.txt", "http://[::1]"] ⟨[], .empty⟩ redirecting
    let sent := step.2.events.filterMap fun
      | .request r => some (r.method, r.address)
      | .followUp r => some (r.method, r.address)
      | _ => none
    sent = [(.put, "http://[::1]/logs?restype=container"), (.put, "http://[::2]/x"),
      (.get, "http://[::1]/logs/probe.txt")] ∧
    ¬ sent <+: [(.put, "http://[::1]/logs?restype=container"),
      (.get, "http://[::1]/logs/probe.txt")] ∧
    step.1 = .finished "hi" := by
  decide +kernel

theorem protocol_of_redirected_step :
    ∃ tried, Tried redirecting tried ((Verbs.builtinHandler .blob).execute
        ["GET", "logs", "probe.txt", "http://[::1]"] ⟨[], .empty⟩ redirecting).2 ∧
      tried.map (fun t => (t.call.method, t.call.url.text)) =
        [(.put, "http://[::1]/logs?restype=container"), (.get, "http://[::1]/logs/probe.txt")] ∧
      ∃ last, tried.getLast? = some last ∧ ∃ response, last.answer = some response ∧
        isSuccess response.status = true := by
  obtain ⟨tried, made, -, -, -, -, protocol⟩ := step_follows_protocol
    ["GET", "logs", "probe.txt", "http://[::1]"] ⟨[], .empty⟩ redirecting
  have ready : Ready ["GET", "logs", "probe.txt", "http://[::1]"]
      ⟨.get, "logs", "probe.txt", "http://[::1]"⟩ ⟨loopback [""], none⟩ :=
    ⟨.get .., by rfl, [[]], by rfl⟩
  obtain ⟨home, address, atHome, atBlob, -, -, -, finished, -⟩ := protocol _ _ ready
  have text : ((Verbs.builtinHandler .blob).execute ["GET", "logs", "probe.txt", "http://[::1]"]
      ⟨[], .empty⟩ redirecting).1 = .finished "hi" := by decide +kernel
  obtain ⟨calls, last, response, ends, answered, success, -⟩ := finished.mp ⟨"hi", text⟩
  obtain rfl : (loopback ["logs"]).setQuery (some "restype=container") = home :=
    Except.ok.inj (by rw [← atHome]; rfl)
  obtain rfl : loopback ["logs", "probe.txt"] = address := Except.ok.inj (by rw [← atBlob]; rfl)
  refine ⟨tried, made, ?_, last, ends, response, answered, success⟩
  have shown := congrArg (List.map fun call => (call.method, call.url.text)) calls
  rw [List.map_map] at shown
  exact shown.trans (by decide)

end HopProbe.Blob
