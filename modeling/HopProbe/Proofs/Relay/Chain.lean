import HopProbe.Proofs.Relay.Share
import HopProbe.Proofs.Relay.Station
import HopProbe.Proofs.Run.Block

/-!
# A script on its way from station to station

The script is started at the first station. Whenever a run ends with a request
to the next station, that one runs what it finds in the request. Each hop
starts its share of the script, and all shares are the script.
-/

set_option autoImplicit false

namespace HopProbe
open HopProbe.Text

/-- A script in the hands of a station. -/
structure Leg where
  station : Station
  inbound : Inbound
  lines : List String

namespace Leg

def report (leg : Leg) : Report World :=
  leg.station.interpreter.runLines leg.station.clock leg.inbound leg.lines leg.station.world

def started (leg : Leg) : List String := leg.lines.take leg.report.executed

def sent? (leg : Leg) : Option Http.Request :=
  match leg.report.halt, leg.report.world.events.getLast? with
  | .forwarded, some (.request sent) => some sent
  | _, _ => none

theorem started_eq (leg : Leg) : leg.started = leg.station.interpreter.started leg.lines := by
  rw [started, report, Interpreter.runLines_executed, Interpreter.take_length_started]

end Leg

def Station.leg (s : Station) (sent : Http.Request) : Leg :=
  ⟨s, (s.receive sent).inbound, s.linesOf sent⟩

def legs (stations : Nat → Station) (inbound : Inbound) (script : List String) :
    Nat → Option Leg
  | 0 => some ⟨stations 0, inbound, script⟩
  | hop + 1 => (legs stations inbound script hop).bind fun leg =>
    leg.sent?.map (stations (hop + 1)).leg

def startedAt (stations : Nat → Station) (inbound : Inbound) (script : List String)
    (hop : Nat) : List String :=
  match legs stations inbound script hop with
  | some leg => leg.started
  | none => []

/-- Stations such that each posting line passes the lines behind it to the next one. -/
def Linked (stations : Nat → Station) (script : List String) : Prop :=
  ∀ front line rest, script = front ++ line :: rest → Script.posts line = true →
    Station.Passes (stations (front.countP Script.posts))
      (stations (front.countP Script.posts + 1)) line rest

theorem Leg.sent?_of_no_post {leg : Leg} (h : ∀ line ∈ leg.lines, Script.posts line = false) :
    leg.sent? = none := by
  have quiet : ∀ line ∈ leg.lines, leg.station.interpreter.forwardsLine line = false := by
    intro line hl
    rw [Station.interpreter, Interpreter.forwardsLine_builtin, h line hl]
  have halt : leg.report.halt = .exhausted := by
    rw [report, Interpreter.runLines_eq, leg.station.interpreter.halting_of_none quiet]
  rw [sent?, halt]

/-- The run of a script that ends with a posting line, which passes its rest to the next station. -/
theorem Leg.run_to_post {here next : Station} {line : String} {before rest : List String}
    (passes : Station.Passes here next line rest) (post : Script.posts line = true)
    (quiet : ∀ l ∈ before, Script.posts l = false) (keeps : ∀ l ∈ rest, Script.IsLine l.toList)
    (inbound : Inbound) :
    let leg : Leg := ⟨here, inbound, before ++ line :: rest⟩
    ∃ sent text, leg.sent? = some sent ∧ (next.leg sent).lines = rest ∧
      next.response sent = .plainText 200 text ∧
      text = next.interpreter.answer next.clock (next.leg sent).inbound rest next.world ∧
      leg.started = before ++ [line] ∧ ∃ front time, leg.report.transcript.blocks =
        front ++ [Step.block ⟨line, .success text⟩ time] := by
  intro leg
  have keepers : ∀ l ∈ before, here.interpreter.Local l := by
    intro l hl
    exact Interpreter.local_of_not_posts here.stepTimeout (quiet l hl)
  have silent : ∀ l ∈ before, here.interpreter.forwardsLine l = false :=
    fun l hl => (keepers l hl).1
  have forwards : here.interpreter.forwardsLine line = true := by
    rw [Station.interpreter, Interpreter.forwardsLine_builtin, post]
  have changes : World.Changes here.world (here.interpreter.left inbound before here.world) :=
    Interpreter.left_changes here.stepTimeout inbound before here.world
  obtain ⟨sent, text, lines, response, ran, executed⟩ :=
    passes.executeLine keeps inbound changes
  have halt : leg.report.halt = .forwarded := by
    rw [report, Interpreter.runLines_eq]
    exact here.interpreter.halting_to_forward silent forwards rest
  have world : leg.report.world =
      ((here.interpreter.left inbound before here.world).exchange sent).2 := by
    rw [report, Interpreter.runLines_eq]
    simp only [leg, here.interpreter.left_append keepers, Interpreter.left, executed, forwards,
      if_true]
  have last : leg.report.world.events.getLast? = some (.request sent) := by
    rw [world, World.exchange_events]
    simp
  refine ⟨sent, text, ?_, lines, response, ran, ?_, ?_⟩
  · rw [sent?, halt, last]
  · rw [started_eq]
    exact here.interpreter.started_to_forward silent forwards rest
  · rw [report, Interpreter.runLines_eq]
    simp only [leg, here.interpreter.steps_append keepers, Interpreter.steps, executed, forwards,
      if_true, Step.blocks_append]
    exact ⟨_, _, rfl⟩

section
variable {stations : Nat → Station} {script : List String} (inbound : Inbound)

/-- Every hop up to the last brings its station the lines behind the posting lines so far. -/
theorem legs_of_le (linked : Linked stations script)
    (keeps : ∀ line ∈ script, Script.IsLine line.toList) {hop : Nat}
    (h : hop ≤ script.countP Script.posts) :
    ∃ request, legs stations inbound script hop =
      some ⟨stations hop, request, Script.behind hop script⟩ := by
  -- The station of a hop gets what is behind the posting line that ends the share before.
  induction hop with
  | zero =>
    refine ⟨inbound, ?_⟩
    rw [legs, Script.behind]
  | succ hop ih =>
    obtain ⟨request, here⟩ := ih (by omega)
    obtain ⟨front, before, line, after, hs, count, behind, quiet, post, there⟩ :=
      Script.exists_post (show hop < script.countP Script.posts by omega)
    have passes := linked front line after hs post
    rw [count] at passes
    have kept : ∀ l ∈ after, Script.IsLine l.toList := by
      intro l hl
      exact keeps l (by simp [hs, hl])
    obtain ⟨sent, text, handed, lines, -⟩ := Leg.run_to_post passes post quiet kept request
    refine ⟨((stations (hop + 1)).receive sent).inbound, ?_⟩
    rw [legs, here, Option.bind_some, behind, handed, Option.map_some, there]
    exact congrArg some (congrArg (Leg.mk _ _) lines)

theorem legs_of_lt (linked : Linked stations script)
    (keeps : ∀ line ∈ script, Script.IsLine line.toList) {hop : Nat}
    (h : script.countP Script.posts < hop) : legs stations inbound script hop = none := by
  induction hop with
  | zero => omega
  | succ hop ih =>
    by_cases later : script.countP Script.posts < hop
    · rw [legs, ih later, Option.bind_none]
    · have last : hop = script.countP Script.posts := by omega
      obtain ⟨request, here⟩ := legs_of_le inbound linked keeps (Nat.le_of_eq last)
      have none : (Script.behind hop script).countP Script.posts = 0 := by
        rw [Script.countP_behind, last, Nat.sub_self]
      rw [legs, here, Option.bind_some, Leg.sent?_of_no_post, Option.map_none]
      intro line hl
      simpa using List.countP_eq_zero.mp none line hl

theorem startedAt_eq_share (linked : Linked stations script)
    (keeps : ∀ line ∈ script, Script.IsLine line.toList) (hop : Nat) :
    startedAt stations inbound script hop = Script.share hop script := by
  by_cases h : hop ≤ script.countP Script.posts
  · obtain ⟨request, here⟩ := legs_of_le inbound linked keeps h
    rw [startedAt, here, ← Script.started_behind (stations hop).stepTimeout]
    exact Leg.started_eq _
  · have later : script.countP Script.posts < hop := by omega
    rw [startedAt, legs_of_lt inbound linked keeps later, Script.share_of_lt later]

end

/-- Every line of a script is started at one hop, that of the posting lines before it, and the block
of a posting line shows between its markers what the next station responds. -/
theorem relay_of_linked (stations : Nat → Station) (inbound : Inbound) (body : String)
    (linked : Linked stations (Script.lines body)) :
    let script := Script.lines body
    let hops := legs stations inbound script
    let last := script.countP Script.posts
    (List.range (last + 1)).flatMap (startedAt stations inbound script) = script ∧
    (∀ hop, startedAt stations inbound script hop =
      (script.zipIdx.filter fun (_, j) => (script.take j).countP Script.posts == hop).map
        Prod.fst) ∧
    (∀ hop, last < hop → hops hop = none) ∧
    ∀ hop < last, ∃ leg next sent text output breaks front line time,
      hops hop = some leg ∧ leg.started.getLast? = some line ∧ Script.posts line = true ∧
      leg.sent? = some sent ∧ hops (hop + 1) = some next ∧
      (stations (hop + 1)).response sent = .plainText 200 text ∧
      text = (if next.lines = [] then "-"
        else String.intercalate "\n" next.report.transcript.blocks) ∧
      leg.report.transcript.blocks = front ++ ["-> Start: " ++ line ++ "\n" ++ output ++ "\n" ++
        "<- End: " ++ line ++ " " ++ Elapsed.text time ++ "\n"] ∧
      text = output ++ breaks ∧ output ≠ "" ∧
      (∀ c ∈ output.toList.getLast?, c ≠ '\r' ∧ c ≠ '\n') ∧
      ∀ c ∈ breaks.toList, c = '\r' ∨ c = '\n' := by
  intro script hops last
  have keeps : ∀ line ∈ script, Script.IsLine line.toList := by
    intro line hl
    exact Script.isLine_of_mem_lines hl
  have shares := startedAt_eq_share inbound linked keeps
  refine ⟨?_, shares, fun hop h => legs_of_lt inbound linked keeps h, ?_⟩
  · rw [funext shares]
    exact Script.flatMap_share script
  · intro hop h
    obtain ⟨request, here⟩ := legs_of_le inbound linked keeps (Nat.le_of_lt h)
    obtain ⟨front, before, line, after, hs, count, behind, quiet, post, -⟩ :=
      Script.exists_post h
    have passes := linked front line after hs post
    rw [count] at passes
    have kept : ∀ l ∈ after, Script.IsLine l.toList := by
      intro l hl
      exact keeps l (by simp [hs, hl])
    obtain ⟨sent, text, handed, lines, response, ran, started, blocks, time, shown⟩ :=
      Leg.run_to_post passes post quiet kept request
    -- An answer begins with a dash, so that the block of the posting line prints something.
    have dash : text.toList.head? = some '-' := ran ▸ Interpreter.head?_answer ..
    obtain ⟨output, breaks, whole, filled, ends, kind, block⟩ :=
      Step.block_of_success line time ⟨'-', List.mem_of_head? dash, by decide⟩
    rw [behind] at here
    refine ⟨_, (stations (hop + 1)).leg sent, sent, text, output, breaks, blocks, line, time, here,
      ?_, post, handed, ?_, response, ?_, block ▸ shown, whole, filled, ends, kind⟩
    · rw [started, List.getLast?_concat]
    · show legs stations inbound script (hop + 1) = _
      rw [legs, here, Option.bind_some, handed, Option.map_some]
    · rw [ran, Leg.report, lines]
      rfl

def Station.alone : Station where
  stepTimeout := .ofSeconds 100
  maxBody := 1048576
  site := none
  clock := fun _ => 0
  world := .still
  receive := fun sent => ⟨sent.method.name, sent.url.target,
    sent.fields.map fun f => ⟨f.name, Utf8.bytes f.value⟩, [sent.body], none, none⟩
  reply := fun r => ⟨r.status, r.contentType.toList.map fun type => ⟨"content-type", type⟩, r.body, true⟩
  receive_carries := fun sent =>
    ⟨rfl, rfl, by simp [List.filter_map, Function.comp_def], by simp, rfl⟩
  reply_carries := fun r =>
    ⟨rfl, by cases h : r.contentType <;> simp [Http.Fields.values], rfl, rfl⟩

def Station.peer (s : Station) : Peer where
  accepts := fun sent => sent.address == "http://[::1]/api/commands"
  reply := fun sent => .response (s.reply (s.response sent))
  once := false

def Station.before (next : Station) : Station :=
  { Station.alone with world := { World.still with peers := [next.peer] } }

theorem Station.passes_before {next : Station} {rest : List String}
    (fits : (Utf8.bytes (Script.join rest)).length ≤ next.maxBody)
    (opens : ∀ first ∈ rest.head?, ∀ c ∈ first.toList.head?,
      isBlank c = false ∧ c ≠ '"' ∧ c ≠ '\uFEFF') :
    Passes next.before next "HTTP POST http://[::1]/api/commands" rest := by
  let url : Url := ⟨"http", "", none, some (.v6 [0, 0, 0, 0, 0, 0, 0, 1]), none, false,
    .segments ["api".toList, "commands".toList], none, none⟩
  let sent : Http.Request := ⟨.post, url, [Verbs.Http.userAgent, Verbs.Http.scriptType],
    Utf8.bytes (Script.join rest)⟩
  have route : Service.Route.ofPath? (String.ofList (Service.Target.ofText url.target).path) =
      some .commands := by decide
  have address : url.withoutFragment.text = "http://[::1]/api/commands" := by decide
  have answers : next.Answers next.before.world sent := by
    refine ⟨rfl, ?_, next.peer, ⟨?_, rfl⟩, rfl⟩
    · rw [Service.Request.path, (next.receive_carries sent).target]
      exact route
    · have accepted : next.peer.accepts sent = true := beq_iff_eq.mpr address
      simp [before, accepted]
  refine ⟨⟨"http://[::1]/api/commands", sent, by decide, ?_, answers⟩, fits, opens⟩
  have parsed : Url.parse "http://[::1]/api/commands" = .ok url := by rfl
  have named : url.hasHost = true := by decide
  have anonymous : Http.credentials? url = none := by decide
  have sendable : Http.isSendable url = true := by decide
  have whole : Http.sentBody (Http.framed (Utf8.bytes (Script.join rest))
      [Verbs.Http.userAgent, Verbs.Http.scriptType]) (Utf8.bytes (Script.join rest)) =
      Utf8.bytes (Script.join rest) := rfl
  simp only [Verbs.Http.request, parsed, Http.prepare, named, anonymous, sendable, if_true]
  exact congrArg Except.ok (congrArg (Http.Request.mk _ _ _) whole)

theorem relay_over_three_stations :
    let body := "INFO ENV A\nHTTP POST http://[::1]/api/commands\n" ++
      "INFO ENV B\nHTTP POST http://[::1]/api/commands"
    let stations : Nat → Station := fun hop =>
      if hop = 0 then Station.alone.before.before
      else if hop = 1 then Station.alone.before else Station.alone
    Linked stations (Script.lines body) ∧
    startedAt stations .empty (Script.lines body) 0 =
      ["INFO ENV A", "HTTP POST http://[::1]/api/commands"] ∧
    startedAt stations .empty (Script.lines body) 1 =
      ["INFO ENV B", "HTTP POST http://[::1]/api/commands"] ∧
    startedAt stations .empty (Script.lines body) 2 = [] ∧
    legs stations .empty (Script.lines body) 3 = none := by
  intro body stations
  have split : Script.lines body = ["INFO ENV A", "HTTP POST http://[::1]/api/commands",
      "INFO ENV B", "HTTP POST http://[::1]/api/commands"] := by decide
  have first : Station.Passes Station.alone.before.before Station.alone.before
      "HTTP POST http://[::1]/api/commands"
      ["INFO ENV B", "HTTP POST http://[::1]/api/commands"] := by
    apply Station.passes_before (by decide)
    intro line hl c hc
    obtain rfl : "INFO ENV B" = line := by simpa using hl
    obtain rfl : 'I' = c := by simpa using hc
    decide
  have second : Station.Passes Station.alone.before Station.alone
      "HTTP POST http://[::1]/api/commands" [] :=
    Station.passes_before (by decide) (by simp)
  have linked : Linked stations (Script.lines body) := by
    rw [split]
    intro front line rest hs post
    rcases front with _ | ⟨a, _ | ⟨b, _ | ⟨c, _ | ⟨d, front⟩⟩⟩⟩ <;>
      simp only [List.nil_append, List.cons_append, List.cons.injEq] at hs
    · rw [← hs.1] at post
      exact absurd post (by decide)
    · obtain ⟨rfl, rfl, rfl⟩ := hs
      exact first
    · rw [← hs.2.2.1] at post
      exact absurd post (by decide)
    · obtain ⟨rfl, rfl, rfl, rfl, rfl⟩ := hs
      exact second
    · simp at hs
  obtain ⟨-, shares, beyond, -⟩ := relay_of_linked stations .empty body linked
  rw [split] at shares beyond ⊢
  refine ⟨split ▸ linked, ?_, ?_, ?_, beyond 3 (by decide)⟩
  · rw [shares]
    decide
  · rw [shares]
    decide
  · rw [shares]
    decide

end HopProbe
