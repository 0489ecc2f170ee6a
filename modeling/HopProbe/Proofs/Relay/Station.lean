import HopProbe.Proofs.Relay.Handover
import HopProbe.Proofs.Run.Composition

/-!
# Stations

A station is a probe that serves over HTTP with the built-in verbs. It answers
a POST with what it makes of the script in it, and a probe that posts to it
reads the answer as it was sent.
-/

set_option autoImplicit false

namespace HopProbe
open HopProbe.Text

/-- A probe at the time a script reaches it. A probe that posts to itself is
another station in each of its runs. -/
structure Station where
  stepTimeout : Span
  maxBody : Nat
  site : Option Service.Site
  clock : Clock
  /-- The world in which it runs a script. -/
  world : World
  receive : Http.Request → Service.Request
  reply : Service.Response → Http.Response
  receive_carries : ∀ sent, (receive sent).Carries sent
  reply_carries : ∀ sent, (reply sent).Carries sent

namespace Station

def interpreter (s : Station) : Interpreter World := ⟨Verbs.builtin, s.stepTimeout⟩

def service (s : Station) : Service := ⟨s.interpreter, s.maxBody, s.site⟩

def response (s : Station) (sent : Http.Request) : Service.Response :=
  (s.service.respond s.clock (s.receive sent) s.world).1

def linesOf (s : Station) (sent : Http.Request) : List String :=
  match Service.readBody s.maxBody (s.receive sent) with
  | .ok body => Script.lines (Service.script (s.receive sent) body)
  | .error _ => []

/-- A request from a world that reaches the station and brings it a script. -/
structure Answers (s : Station) (w : World) (sent : Http.Request) : Prop where
  connected : w.carries sent.url = true
  commands : Service.Route.ofPath? (s.receive sent).path = some .commands
  peer : ∃ peer, World.Lasting w.peers sent peer ∧
    peer.reply sent = .response (s.reply (s.response sent))

theorem Answers.of_changes {s : Station} {w w' : World} {sent : Http.Request}
    (h : s.Answers w sent) (changes : World.Changes w w') : s.Answers w' sent := by
  obtain ⟨peer, lasting, replies⟩ := h.peer
  have connected : w'.carries sent.url = true := by
    rw [World.carries, World.changes_security changes]
    exact h.connected
  exact ⟨connected, h.commands, peer, World.changes_lasting changes lasting, replies⟩

theorem Answers.exchange {s : Station} {w : World} {sent : Http.Request} (h : s.Answers w sent) :
    (w.exchange sent).1 = .response (s.reply (s.response sent)) := by
  obtain ⟨peer, lasting, replies⟩ := h.peer
  have reached := World.answerFrom_of_lasting lasting
  have connected : (w.record (.request sent)).carries sent.url = true := h.connected
  rw [World.exchange, World.ask, if_pos connected]
  exact reached.trans replies

theorem response_of_posted {s : Station} {sent : Http.Request}
    (commands : Service.Route.ofPath? (s.receive sent).path = some .commands)
    (post : sent.method = .post) (fits : sent.body.length ≤ s.maxBody) :
    s.response sent = .plainText 200
      (s.interpreter.answer s.clock (s.receive sent).inbound (s.linesOf sent) s.world) := by
  have method : (s.receive sent).method = "POST" := by
    rw [(s.receive_carries sent).method, post]
    rfl
  have posts : (s.receive sent).Posts := ⟨Service.ofPath?_eq_commands commands, method⟩
  have carried := s.receive_carries sent
  have lines : Script.lines (Service.script (s.receive sent) (s.receive sent).chunks.flatten) =
      s.linesOf sent := by
    rw [linesOf, carried.readBody fits, carried.body]
  have small : (s.receive sent).chunks.flatten.length ≤ s.service.maxBody := by
    rw [carried.body]
    exact fits
  rw [response, Service.respond_of_posts _ _ _ posts,
    Service.runCommands_of_read _ _ _ _ small carried.whole, lines]
  rfl

/-- A posting line by which one station hands the lines behind it to the next. -/
structure Passes (here next : Station) (line : String) (rest : List String) : Prop where
  posted : ∃ url sent, Script.Command.parse line = some ⟨"HTTP", ["POST", url]⟩ ∧
    Verbs.Http.request ⟨.post, url, []⟩ (Script.join rest) = .ok sent ∧
    next.Answers here.world sent
  fits : (Utf8.bytes (Script.join rest)).length ≤ next.maxBody
  opens : ∀ first ∈ rest.head?, ∀ c ∈ first.toList.head?,
    isBlank c = false ∧ c ≠ '"' ∧ c ≠ '\uFEFF'

theorem Passes.literal {here next : Station} {line : String} {rest : List String}
    (h : Passes here next line rest) (keeps : ∀ l ∈ rest, Script.IsLine l.toList) :
    Script.Literal (Script.join rest).toList := by
  rw [Script.toList_join]
  cases rest with
  | nil => exact ⟨by simp [joined], rfl⟩
  | cons first more =>
    cases hc : first.toList with
    | nil => exact absurd hc (keeps first (by simp)).1
    | cons c cs =>
      obtain ⟨visible, unquoted, unmarked⟩ := h.opens first rfl c (by simp [hc])
      have head : (joined ['\n'] ((first :: more).map String.toList)).head? = some c := by
        rw [List.map_cons]
        exact head?_joined (by simp [hc]) _
      obtain ⟨tail, ht⟩ := List.head?_eq_some_iff.mp head
      rw [ht]
      constructor
      · simpa using unmarked
      · rw [trimmed_cons visible]
        unfold Script.JsonString.decode?
        split
        · simp_all
        · rfl

/-- What a posting line does: the next station runs the lines behind it, and its transcript is
the output. -/
theorem Passes.executeLine {here next : Station} {line : String} {rest : List String}
    (h : Passes here next line rest) (keeps : ∀ l ∈ rest, Script.IsLine l.toList)
    (inbound : Inbound) {w : World} (changes : World.Changes here.world w) :
    ∃ sent text, next.linesOf sent = rest ∧ next.response sent = .plainText 200 text ∧
      text = next.interpreter.answer next.clock (next.receive sent).inbound rest next.world ∧
      here.interpreter.executeLine line ⟨rest, inbound⟩ w =
        (.success text, (w.exchange sent).2) := by
  obtain ⟨url, sent, parsed, request, answers⟩ := h.posted
  obtain ⟨post, body, -⟩ := Verbs.Http.request_post request
  have carried := next.receive_carries sent
  have fits : sent.body.length ≤ next.maxBody := by
    rw [body]
    exact h.fits
  have lines : next.linesOf sent = rest := by
    rw [linesOf, carried.readBody fits]
    exact (Script.lines_of_carries_iff carried request keeps).mpr (h.literal keeps)
  have responds := response_of_posted answers.commands post fits
  rw [lines] at responds
  refine ⟨sent, _, lines, responds, rfl, ?_⟩
  have arrived := next.reply_carries (next.response sent)
  rw [responds] at arrived
  have reads := arrived.text? (Interpreter.head?_answer ..)
  have status : (next.reply (next.response sent)).status = 200 := by
    rw [responds, arrived.status]
    rfl
  have ok : Http.isSuccess (next.reply (next.response sent)).status = true := by
    rw [status]
    rfl
  have reached := (answers.of_changes changes).exchange
  have final : Http.place? sent (next.reply (next.response sent)) = none :=
    Http.place?_of_stays sent (by rw [status]; rfl)
  have ran : (Http.send sent).run.run w =
      (.ok (sent, next.reply (next.response sent)), (w.exchange sent).2) := by
    rw [Http.run_send, reached, Http.settle_of_none _ _ final]
    rfl
  have made : Verbs.Http.request ⟨.post, url, []⟩
      (⟨rest, inbound⟩ : Context).remainderScript = .ok sent := request
  have executed := Verbs.Http.execute_post made w
  rw [← responds] at reads
  simp only [Interpreter.executeLine, parsed, interpreter, executed, ran, Verbs.Http.attempt, ok,
    reads, if_true]
  rfl

end Station

end HopProbe
