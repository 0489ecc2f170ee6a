import HopProbe.Proofs.Http.Prepared
import HopProbe.Proofs.Service.Declared
import HopProbe.Proofs.Service.Reading
import HopProbe.Proofs.Verbs.Change

/-!
# From a POST line to the text that its peer reads, and back

A POST without headers of its own sends the lines behind it as plain text in
UTF-8. A service that receives it reads the same text, but for a byte order
mark at its front. Its transcript begins with a dash and is read as it is.
-/

set_option autoImplicit false

namespace HopProbe
open HopProbe.Text

namespace Http

theorem Fields.values_grouped (fields : Fields) (name : String) :
    (Fields.grouped fields).values name = fields.values name := by
  induction hn : fields.length using Nat.strongRecOn generalizing fields with
  | ind n ih =>
    cases fields with
    | nil => rw [Fields.grouped]
    | cons f rest =>
      have shorter : (rest.filter fun g => g.name != f.name).length < n := by
        have := List.length_filter_le (fun g : Field => g.name != f.name) rest
        simp only [List.length_cons] at hn
        omega
      have later := ih _ shorter (rest.filter fun g => g.name != f.name) rfl
      have near := Fields.values_filter rest (· == f.name) name
      have apart := Fields.values_filter rest (· != f.name) name
      rw [Fields.grouped, Fields.values_append, later, apart]
      rw [← List.singleton_append, Fields.values_append, near]
      rw [← List.singleton_append (l := rest), Fields.values_append]
      by_cases h : name = f.name
      · simp [h]
      · simp [h]

end Http

theorem Verbs.Http.request_post {url remainder : String} {sent : Http.Request}
    (h : Verbs.Http.request ⟨.post, url, []⟩ remainder = .ok sent) :
    sent.method = .post ∧ sent.body = Utf8.bytes remainder ∧
      ∃ login : Http.Fields, (login = [] ∨ ∃ user password, login = [Http.basicField user password]) ∧
        sent.fields = login ++ [userAgent, scriptType] := by
  unfold request at h
  split at h
  · contradiction
  · obtain ⟨login, known, method, fields, body⟩ := Http.prepare_defaults h
    have unframed : Http.framed (Utf8.bytes remainder) (login ++ [userAgent, scriptType]) =
        login ++ [userAgent, scriptType] := by
      rcases known with rfl | ⟨user, password, rfl⟩ <;> rfl
    have unclaimed : Http.sentBody (login ++ [userAgent, scriptType]) (Utf8.bytes remainder) =
        Utf8.bytes remainder := by
      rcases known with rfl | ⟨user, password, rfl⟩ <;> rfl
    rw [unframed] at fields
    rw [fields, unclaimed] at body
    exact ⟨method, body, login, known, fields⟩

theorem Verbs.Http.hasRoom_post {url remainder : String} {sent : Http.Request}
    (h : Verbs.Http.request ⟨.post, url, []⟩ remainder = .ok sent) :
    Http.isFull (sent.fields.names ++ managed) = false := by
  obtain ⟨-, -, login, known, fields⟩ := request_post h
  apply Http.isFull_of_length_lt
  have few : login.length ≤ 1 := by rcases known with rfl | ⟨user, password, rfl⟩ <;> simp
  simp only [fields, Http.Fields.names, managed, List.map_append, List.length_append,
    List.length_map, List.length_cons, List.length_nil, Http.maxNames]
  omega

def Verbs.Http.attempt (answered : Http.Request) (r : Http.Response) : Attempt :=
  if Http.isSuccess r.status then
    match r.text? with
    | some text => .finished text
    | none => .failed (.fault (.http (.brokenBody answered.url.withoutFragment.text)))
  else .finished (r.statusText ++ " " ++ r.explanation)

namespace Verbs

theorem Http.execute_post_eq (url : String) (context : Context) (w : World) :
    builtin.execute ⟨"HTTP", ["POST", url]⟩ context w =
      (Http.perform ⟨.post, url, []⟩ context).outcome w := by
  have read : Http.phases.read ["POST", url] = .ok ⟨.post, url, []⟩ := rfl
  exact (execute_builtin .http _ context w).trans (Http.phases.execute_of_read_ok read context w)

theorem Http.execute_post {url : String} {context : Context} {sent : HopProbe.Http.Request}
    (made : Http.request ⟨.post, url, []⟩ context.remainderScript = .ok sent) (w : World) :
    builtin.execute ⟨"HTTP", ["POST", url]⟩ context w =
      match (HopProbe.Http.send sent).run.run w with
      | (.ok (answered, r), next) => (Http.attempt answered r, next)
      | (.error stop, next) => (Effect.attemptOf (.error stop), next) := by
  rw [Http.execute_post_eq]
  unfold Http.perform Effect.outcome
  rw [Effect.run_bind, made, Effect.run_ofExcept_ok]
  dsimp only
  rw [Http.hasRoom_post made, if_neg Bool.false_ne_true, Effect.run_bind]
  rcases (HopProbe.Http.send sent).run.run w with ⟨stop | ⟨answered, r⟩, next⟩
  · rfl
  · by_cases success : HopProbe.Http.isSuccess r.status
    · cases text : r.text? with
      | some t =>
        simp only [Http.attempt, success, text, if_true]
        rfl
      | none =>
        simp only [Http.attempt, success, text, if_true]
        rfl
    · simp only [Http.attempt, success]
      rfl

theorem Http.execute_post_unmade {url : String} {context : Context} {e : HopProbe.Http.Failure}
    (unmade : Http.request ⟨.post, url, []⟩ context.remainderScript = .error e) (w : World) :
    builtin.execute ⟨"HTTP", ["POST", url]⟩ context w = (.failed (.fault (.http e)), w) := by
  rw [Http.execute_post_eq]
  unfold Http.perform Effect.outcome
  rw [Effect.run_bind, unmade, Effect.run_ofExcept_error]
  rfl

/-- A POST without fields of its own whose first event is a request sent the lines behind it. -/
theorem Http.request_of_logged {limit : Span} {line url : String} {context : Context} {w : World}
    {sent : HopProbe.Http.Request} {followed : List Event}
    (post : Script.Command.parse line = some ⟨"HTTP", ["POST", url]⟩)
    (logged : ((⟨builtin, limit⟩ : Interpreter World).executeLine line context w).2.events =
      w.events ++ .request sent :: followed) :
    Http.request ⟨.post, url, []⟩ context.remainderScript = .ok sent := by
  simp only [Interpreter.executeLine, post] at logged
  cases hr : Http.request ⟨.post, url, []⟩ context.remainderScript with
  | error e =>
    rw [Http.execute_post_unmade hr] at logged
    simp at logged
  | ok other =>
    have world : (builtin.execute ⟨"HTTP", ["POST", url]⟩ context w).2 =
        ((HopProbe.Http.send other).run.run w).2 := by
      rw [Http.execute_post hr]
      rcases (HopProbe.Http.send other).run.run w with ⟨stop | ⟨answered, r⟩, next⟩ <;> rfl
    obtain ⟨onward, events, -⟩ := HopProbe.Http.send_events other w
    rw [world, events] at logged
    have same : other = sent ∧ onward = followed := by
      simpa using List.append_cancel_left logged
    rw [same.1]

end Verbs

namespace Service

/-- A request as it arrives: for the same target, declared to be of the same
types, with all of its body in any number of pieces. -/
structure Request.Carries (received : Request) (sent : Http.Request) : Prop where
  method : received.method = sent.method.name
  target : received.target = sent.url.target
  types : (received.fields.filter fun f => lower f.name == "content-type").map RawField.value =
    (sent.fields.filter fun f => lower f.name == "content-type").map fun f => Utf8.bytes f.value
  body : received.chunks.flatten = sent.body
  whole : received.broken = none

theorem Request.Carries.readBody {received : Request} {sent : Http.Request}
    (h : received.Carries sent) {limit : Nat} (fits : sent.body.length ≤ limit) :
    readBody limit received = .ok sent.body := by
  rw [readBody_eq, h.body, if_neg (Nat.not_lt.mpr fits), h.whole]

theorem Request.Carries.contentType? {received : Request} {sent : Http.Request}
    {url text : String} (h : received.Carries sent)
    (posted : Verbs.Http.request ⟨.post, url, []⟩ text = .ok sent) :
    received.contentType? = some "text/plain; charset=utf-8" := by
  obtain ⟨-, -, login, known, fields⟩ := Verbs.Http.request_post posted
  have others : (login.filter fun f => lower f.name == "content-type") = [] := by
    have different : (lower "authorization" == "content-type") = false := by decide
    rcases known with rfl | ⟨user, password, rfl⟩
    · rfl
    · simp [Http.basicField, different]
  have types : (received.fields.filter fun f => lower f.name == "content-type").map RawField.value =
      [Utf8.bytes "text/plain; charset=utf-8"] := by
    rw [h.types, fields, List.filter_append, others]
    rfl
  have read : Utf8.textLossy (Utf8.bytes "text/plain; charset=utf-8") =
      "text/plain; charset=utf-8" := by
    rw [Utf8.textLossy, Utf8.bytes, Utf8.decodeLossy_encode, String.ofList_toList]
  have values : received.headers.values "content-type" = ["text/plain; charset=utf-8"] := by
    rw [Request.headers, Http.Fields.values_grouped, Http.Fields.values, List.filter_map,
      List.map_map, ← read, ← List.map_singleton, ← types, List.map_map]
    rfl
  rw [Request.contentType?, Http.Fields.plain?, values]
  rfl

theorem decodeBody_plain (cs : List Char) :
    decodeBody (some "text/plain; charset=utf-8") (Utf8.encode cs) = unmarked cs := by
  have narrow : declaresUtf16 "text/plain; charset=utf-8" = false := by decide
  have noForm : isForm "text/plain; charset=utf-8" = false := by decide
  simp only [decodeBody, Option.getD_some, noForm, characters_narrow narrow]
  rfl

/-- The peer reads what was sent, but for a byte order mark. -/
theorem Request.Carries.script {received : Request} {sent : Http.Request} {url : String}
    {text : String} (h : received.Carries sent)
    (posted : Verbs.Http.request ⟨.post, url, []⟩ text = .ok sent) :
    Service.script received sent.body = String.ofList (unmarked text.toList) := by
  obtain ⟨-, body, -⟩ := Verbs.Http.request_post posted
  rw [Service.script, h.contentType? posted, body, Utf8.bytes, decodeBody_plain]

end Service

structure Http.Response.Carries (received : Http.Response) (sent : Service.Response) : Prop where
  status : received.status = sent.status
  types : received.fields.values "content-type" = sent.contentType.toList
  body : received.body = sent.body
  whole : received.complete = true

theorem Http.Response.Carries.text? {received : Http.Response} {text : String}
    (h : received.Carries (.plainText 200 text)) (dash : text.toList.head? = some '-') :
    received.text? = some text := by
  obtain ⟨rest, hr⟩ := List.head?_eq_some_iff.mp dash
  have content : received.content? = some (Utf8.bytes text) := by
    have bodily : isBodiless 200 = false := by decide
    have ok : received.status = 200 := h.status
    rw [content?, ok, bodily, h.whole, h.body]
    rfl
  have charset : received.charset = .utf8 := by
    have types : received.fields.values "content-type" = ["text/plain; charset=utf-8"] := h.types
    have plain : received.fields.plain? "content-type" = some "text/plain; charset=utf-8" := by
      rw [Fields.plain?, types]
      decide
    have label : (ContentType.charset? "text/plain; charset=utf-8").map Charset.ofLabel =
        some .utf8 := by decide
    rw [Response.charset, plain, Option.bind_some, label]
  have decoded : Charset.utf8.decode (Utf8.bytes text) = text.toList := by
    have bytes : Utf8.bytes text = 0x2D :: Utf8.encode rest := by
      rw [Utf8.bytes, hr]
      rfl
    have same : Charset.utf8.decode (0x2D :: Utf8.encode rest) =
        Utf8.decodeLossy (0x2D :: Utf8.encode rest) := rfl
    rw [bytes, same, ← bytes, Utf8.bytes, Utf8.decodeLossy_encode]
  rw [Response.text?, content, charset, Option.map_some, decoded, String.ofList_toList]

end HopProbe
