import HopProbe.Proofs.Run.Composition
import HopProbe.Proofs.Verbs.Requests

/-!
# The one POST of a run

A run sends its POST last or not at all: the lines before it do not forward,
and a line that forwards is the last one started. The body is the lines behind
it, unless the line itself claims that there are fewer bytes. Only a response
that sends the POST elsewhere can make a request follow it.
-/

set_option autoImplicit false

namespace HopProbe
open HopProbe.Text

def Event.isPost : Event → Bool
  | .request r => r.method == .post
  | _ => false

theorem countP_isPost_of_followUp {onward : List Event}
    (h : ∀ e ∈ onward, ∃ r, e = .followUp r) : onward.countP Event.isPost = 0 := by
  rw [List.countP_eq_zero]
  intro e he
  obtain ⟨r, rfl⟩ := h e he
  simp [Event.isPost]

theorem countP_isPost {sent : List Event} (h : ∀ r, .request r ∈ sent → r.method ≠ .post) :
    sent.countP Event.isPost = 0 := by
  rw [List.countP_eq_zero]
  intro e he
  cases e with
  | request r => simpa [Event.isPost] using h r he
  | _ => simp [Event.isPost]

namespace Interpreter

theorem executeLine_quiet (limit : Span) {line : String}
    (quiet : (⟨Verbs.builtin, limit⟩ : Interpreter World).forwardsLine line = false)
    (context : Context) (w : World) :
    ∃ sent, ((⟨Verbs.builtin, limit⟩ : Interpreter World).executeLine line context w).2.events =
      w.events ++ sent ∧ ∀ r, .request r ∈ sent → r.method ≠ .post := by
  cases hc : Script.Command.parse line with
  | none => exact ⟨[], by simp [executeLine, hc], by simp⟩
  | some command =>
    have silent : Verbs.builtin.forwards command = false := by simpa [forwardsLine, hc] using quiet
    obtain ⟨sent, added, nothing⟩ := Verbs.builtin_quiet silent context w
    exact ⟨sent, by simpa [executeLine, hc] using added, fun r hr => (nothing r hr).1⟩

theorem left_quiet (limit : Span) (request : Inbound) {lines : List String}
    (h : ∀ line ∈ lines, (⟨Verbs.builtin, limit⟩ : Interpreter World).forwardsLine line = false)
    (w : World) :
    ∃ sent, ((⟨Verbs.builtin, limit⟩ : Interpreter World).left request lines w).events =
      w.events ++ sent ∧ ∀ r, .request r ∈ sent → r.method ≠ .post := by
  induction lines generalizing w with
  | nil => exact ⟨[], (List.append_nil _).symm, by simp⟩
  | cons line rest ih =>
    have quiet := h line (by simp)
    obtain ⟨first, added, noPost⟩ := executeLine_quiet limit quiet ⟨rest, request⟩ w
    obtain ⟨later, more, noMore⟩ := ih (fun l hl => h l (by simp [hl])) _
    refine ⟨first ++ later, ?_, ?_⟩
    · simp only [left, quiet, Bool.false_eq_true, if_false]
      rw [more, added, List.append_assoc]
    · intro r hr
      rcases List.mem_append.mp hr with hr | hr
      · exact noPost r hr
      · exact noMore r hr

/-- A line that forwards sends the POST of its command and can follow it, or does nothing at all. -/
theorem executeLine_forward (limit : Span) {line : String}
    (forward : (⟨Verbs.builtin, limit⟩ : Interpreter World).forwardsLine line = true)
    (context : Context) (w : World) :
    ∃ command, Script.Command.parse line = some command ∧
      (((⟨Verbs.builtin, limit⟩ : Interpreter World).executeLine line context w).2 = w ∨
        ∃ action sent, Verbs.Http.read command.args = .ok action ∧ action.method = .post ∧
          Verbs.Http.request action context.remainderScript = .ok sent ∧
          ((⟨Verbs.builtin, limit⟩ : Interpreter World).executeLine line context w).2 =
            ((Http.send sent).run.run w).2) := by
  cases hc : Script.Command.parse line with
  | none => simp [forwardsLine, hc] at forward
  | some command =>
    have forwards : Verbs.builtin.forwards command = true := by simpa [forwardsLine, hc] using forward
    have executed : ((⟨Verbs.builtin, limit⟩ : Interpreter World).executeLine line context w).2 =
        (Verbs.builtin.execute command context w).2 := by
      simp only [executeLine, hc]
    rw [executed]
    exact ⟨command, rfl, Verbs.builtin_forward forwards context w⟩

theorem left_forward (limit : Span) (request : Inbound) {done : List String}
    (quiet : ∀ l ∈ done, (⟨Verbs.builtin, limit⟩ : Interpreter World).forwardsLine l = false)
    {line : String}
    (forward : (⟨Verbs.builtin, limit⟩ : Interpreter World).forwardsLine line = true)
    (rest : List String) (w : World) :
    let i : Interpreter World := ⟨Verbs.builtin, limit⟩
    i.left request (done ++ line :: rest) w =
      (i.executeLine line ⟨rest, request⟩ (i.left request done w)).2 := by
  intro i
  have keeps : ∀ l ∈ done, i.Local l := by
    intro l hl
    apply local_of_not_posts
    rw [← forwardsLine_builtin limit]
    exact quiet l hl
  have ends : i.forwardsLine line = true := forward
  rw [left_append i keeps]
  simp only [left, ends, if_true]

/-- The events of a run hold no POST, or one that its last line sends as the last of its requests. -/
theorem left_sent (limit : Span) (request : Inbound) (lines : List String) (w : World) :
    let i : Interpreter World := ⟨Verbs.builtin, limit⟩
    (∃ sent, (i.left request lines w).events = w.events ++ sent ∧
      ∀ r, .request r ∈ sent → r.method ≠ .post) ∨
    ∃ done line rest command action earlier post onward,
      lines = done ++ line :: rest ∧ (∀ l ∈ done, i.forwardsLine l = false) ∧
      i.forwardsLine line = true ∧ Script.Command.parse line = some command ∧
      Verbs.Http.read command.args = .ok action ∧ action.method = .post ∧
      Verbs.Http.request action (Script.join rest) = .ok post ∧
      (i.left request done w).events = w.events ++ earlier ∧
      (∀ r, .request r ∈ earlier → r.method ≠ .post) ∧
      (∀ e ∈ onward, ∃ r, e = .followUp r) ∧
      (i.left request lines w).events = w.events ++ (earlier ++ .request post :: onward) := by
  intro i
  cases found : lines.find? i.forwardsLine with
  | none =>
    left
    apply left_quiet
    simpa using found
  | some line =>
    obtain ⟨forward, done, rest, split, silent⟩ := List.find?_eq_some_iff_append.mp found
    have quiet : ∀ l ∈ done, i.forwardsLine l = false := by simpa using silent
    obtain ⟨earlier, added, noPost⟩ := left_quiet limit request quiet w
    have last : i.left request lines w =
        (i.executeLine line ⟨rest, request⟩ (i.left request done w)).2 := by
      rw [split]
      exact left_forward limit request quiet forward rest w
    obtain ⟨command, parsed, step⟩ :=
      executeLine_forward limit forward ⟨rest, request⟩ (i.left request done w)
    rcases step with still | ⟨action, post, read, method, made, sends⟩
    · left
      exact ⟨earlier, by rw [last, still, added], noPost⟩
    · right
      obtain ⟨onward, events, followed⟩ := Http.send_events post (i.left request done w)
      refine ⟨done, line, rest, command, action, earlier, post, onward, split, quiet, forward, parsed,
        read, method, made, added, noPost, followed, ?_⟩
      rw [last, sends, events, added, List.append_assoc]

/-- A run sends at most one POST, and as the last of its requests; where no response sends a request
elsewhere it is the last of all that the run reaches for. The line that sends it forwards, is the
last one started, and sends the lines behind it: all of their bytes, unless its own fields claim
fewer. No command that does not forward hands these lines on. -/
theorem post_ends_run (limit : Span) (clock : Clock) (request : Inbound) (lines : List String)
    (w : World) :
    let i : Interpreter World := ⟨Verbs.builtin, limit⟩
    let run := i.runLines clock request lines w
    (∃ sent, run.world.events = w.events ++ sent ∧ sent.countP Event.isPost ≤ 1 ∧
      (w.Direct → ∀ r, .followUp r ∉ sent) ∧
      ∀ post, .request post ∈ sent → post.method = .post →
        ∃ done line rest command action earlier onward,
          lines = done ++ line :: rest ∧ run.executed = done.length + 1 ∧ run.halt = .forwarded ∧
          Script.Command.parse line = some command ∧ i.registry.forwards command = true ∧
          (let front := i.runLines clock request done w
          front.world.events = w.events ++ earlier ∧
          run.world = (i.executeLine line ⟨rest, request⟩ front.world).2) ∧
          sent = earlier ++ .request post :: onward ∧ (∀ e ∈ onward, ∃ r, e = .followUp r) ∧
          (w.Direct → sent = earlier ++ [.request post]) ∧
          Verbs.Http.read command.args = .ok action ∧
          (let body := Utf8.bytes (Script.join rest)
          post.body <+: body ∧ (post.body = body ↔ ¬ action.fields.Cut body))) ∧
    ∀ command : Script.Command, i.registry.forwards command = false → ∀ context world,
      (∃ sent, (i.registry.execute command context world).2.events = world.events ++ sent ∧
        (world.Direct → ∀ r, .followUp r ∉ sent) ∧
        ∀ r, .request r ∈ sent → Verbs.HandsNothing command.args r) ∧
      ∀ remainder, i.registry.execute command ⟨remainder, context.request⟩ world =
        i.registry.execute command context world := by
  intro i run
  have world : run.world = i.left request lines w := by simp only [run, runLines_eq]
  constructor
  · have direct {sent : List Event} (added : (i.left request lines w).events = w.events ++ sent) :
        w.Direct → ∀ r, .followUp r ∉ sent :=
      World.not_followUp_of_keepsDirect (left_keepsDirect limit request lines w) added
    rcases left_sent limit request lines w with ⟨sent, added, noPost⟩ |
      ⟨done, line, rest, command, action, earlier, post, onward, split, quiet, forward, parsed, read,
        method, made, before, noPost, followed, added⟩
    · refine ⟨sent, world ▸ added, ?_, direct added, ?_⟩
      · rw [countP_isPost noPost]
        exact Nat.zero_le 1
      · intro post hp posts
        exact absurd posts (noPost post hp)
    · refine ⟨earlier ++ .request post :: onward, world ▸ added, ?_, direct added, ?_⟩
      · rw [List.countP_append, countP_isPost noPost, List.countP_cons,
          countP_isPost_of_followUp followed, Nat.zero_add, Nat.zero_add]
        split <;> decide
      · intro other hp posts
        obtain rfl : other = post := by
          rcases List.mem_append.mp hp with early | here
          · exact absurd posts (noPost other early)
          · rcases List.mem_cons.mp here with same | later
            · exact Event.request.inj same
            · obtain ⟨r, different⟩ := followed _ later
              cases different
        obtain ⟨-, front, whole⟩ := Verbs.Http.request_of_post method made
        have forwards : i.registry.forwards command = true := by
          simpa [forwardsLine, parsed] using forward
        have started : i.started lines = done ++ [line] := by
          rw [split, started_to_forward i quiet forward]
        have halt : i.halting lines = .forwarded := by
          rw [split, halting_to_forward i quiet forward]
        refine ⟨done, line, rest, command, action, earlier, onward, split, ?_, ?_, parsed, forwards, ?_,
          rfl, followed, fun straight => ?_, read, front, whole⟩
        · rw [runLines_executed, started]
          simp
        · simp only [run, runLines_eq, halt]
        · intro before_line
          have reached : before_line.world = i.left request done w := by
            simp only [before_line, runLines_eq]
          rw [reached, world, split]
          exact ⟨before, left_forward limit request quiet forward rest w⟩
        · have none : onward = [] := by
            refine List.eq_nil_iff_forall_not_mem.mpr fun e he => ?_
            obtain ⟨r, rfl⟩ := followed e he
            exact direct added straight r (by simp [he])
          rw [none]
  · intro command quiet context world
    constructor
    · obtain ⟨sent, added, nothing⟩ := Verbs.builtin_quiet quiet context world
      exact ⟨sent, added, World.not_followUp_of_keepsDirect
        (Verbs.builtin_keepsDirect command context world) added, nothing⟩
    · intro remainder
      exact Verbs.builtin_remainder quiet remainder context.remainder context.request world

/-- A length that the line claims for itself cuts off the second of the lines behind it. -/
theorem post_cut_by_claimed_length :
    let line := "HTTP POST http://[::1]/api/commands content-length=13"
    let run := (⟨Verbs.builtin, .ofSeconds 100⟩ : Interpreter World).runLines (fun _ => 0) .empty
      [line, "INFO HOSTNAME", "TCP db 5432"] .still
    let post : Http.Request := ⟨.post, ⟨"http", "", none, some (.v6 [0, 0, 0, 0, 0, 0, 0, 1]), none,
      false, .segments ["api".toList, "commands".toList], none, none⟩,
      [Verbs.Http.userAgent, Verbs.Http.scriptType, ⟨"content-length", "13"⟩],
      Utf8.bytes "INFO HOSTNAME"⟩
    run.world.events = [.request post] ∧ run.halt = .forwarded ∧
      post.body ≠ Utf8.bytes (Script.join ["INFO HOSTNAME", "TCP db 5432"]) := by
  intro line run post
  have parses : Script.Command.parse line =
      some ⟨"HTTP", ["POST", "http://[::1]/api/commands", "content-length=13"]⟩ := by decide
  have reads : Verbs.Http.read ["POST", "http://[::1]/api/commands", "content-length=13"] =
      .ok ⟨.post, "http://[::1]/api/commands", [⟨"content-length", "13"⟩]⟩ := by rfl
  have events : run.world.events = [.request post] := by
    have made : Verbs.Http.request ⟨.post, "http://[::1]/api/commands", [⟨"content-length", "13"⟩]⟩
        (⟨["INFO HOSTNAME", "TCP db 5432"], .empty⟩ : Context).remainderScript = .ok post := by decide
    have room : Http.isFull (post.fields.names ++ Verbs.Http.managed) = false := by decide
    have unanswered : (World.still.exchange post).1 = .closed := by rfl
    have forward : (⟨Verbs.builtin, .ofSeconds 100⟩ : Interpreter World).forwardsLine line = true := by
      decide
    simp only [run, runLines_eq, left, forward, if_true, executeLine, parses,
      Verbs.Http.execute_world reads, Verbs.Http.perform_world, made, room, Bool.false_eq_true,
      if_false, Http.run_send, unanswered]
    exact World.exchange_events .still post
  have executed : run.executed = 1 := by
    simp only [run, runLines_executed]
    decide
  obtain ⟨⟨sent, added, -, -, ends⟩, -⟩ := post_ends_run (.ofSeconds 100) (fun _ => 0) .empty
    [line, "INFO HOSTNAME", "TCP db 5432"] .still
  have one : sent = [.request post] := added.symm.trans events
  obtain ⟨done, last, rest, command, action, earlier, onward, split, length, halt, parsed, -, -, -,
    -, -, read, -, whole⟩ := ends post (by simp [one]) rfl
  have first : done = [] := by
    have none : done.length + 1 = 1 := length.symm.trans executed
    exact List.length_eq_zero_iff.mp (by omega)
  subst first
  obtain ⟨rfl, rfl⟩ : line = last ∧ ["INFO HOSTNAME", "TCP db 5432"] = rest := by simpa using split
  obtain rfl := Option.some.inj (parses.symm.trans parsed)
  obtain rfl := Except.ok.inj (reads.symm.trans read)
  refine ⟨events, halt, fun all => whole.mp all ⟨by decide, 13, by decide, by decide⟩⟩

end Interpreter
end HopProbe
