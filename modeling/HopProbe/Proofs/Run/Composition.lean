import HopProbe.Proofs.Run.Steps
import HopProbe.Proofs.Verbs.Change
import HopProbe.Proofs.Verbs.Remainder

/-!
# Runs of scripts that are put together

A line is local if it neither forwards nor depends on the lines behind it. A
run over local lines and more lines is the run over the local ones, followed
by the run over the others in the world that the first one left. Of the
built-in verbs every line is local that does not post.
-/

set_option autoImplicit false

namespace HopProbe

namespace Step

/-- Two blocks of one step, which ended at any two times. -/
def SameButTime (block block' : String) : Prop :=
  ∃ (s : Step) (e e' : Elapsed), block = s.block e ∧ block' = s.block e'

theorem sameButTime_blocks (clock clock' : Clock) (steps : List Step) :
    List.Forall₂ SameButTime (blocks clock steps) (blocks clock' steps) := by
  rw [List.forall₂_iff_get]
  refine ⟨by simp [blocks], fun j hj hj' => ?_⟩
  have inside : j < steps.length := by simpa [blocks] using hj
  refine ⟨steps[j], clock j, clock' j, ?_, ?_⟩ <;> simp [blocks]

end Step

namespace Interpreter

section
variable {σ : Type}

/-- A line that keeps to itself. -/
def Local (i : Interpreter σ) (line : String) : Prop :=
  i.forwardsLine line = false ∧ ∀ remainder remainder' request world,
    i.executeLine line ⟨remainder, request⟩ world = i.executeLine line ⟨remainder', request⟩ world

theorem steps_append (i : Interpreter σ) {lines : List String} (h : ∀ line ∈ lines, i.Local line)
    (request : Inbound) (more : List String) (world : σ) :
    i.steps request (lines ++ more) world =
      i.steps request lines world ++ i.steps request more (i.left request lines world) := by
  induction lines generalizing world with
  | nil => rfl
  | cons line rest ih =>
    obtain ⟨quiet, same⟩ := h line (by simp)
    have later : ∀ l ∈ rest, i.Local l := fun l hl => h l (by simp [hl])
    simp only [List.cons_append, steps, left, quiet, Bool.false_eq_true, if_false]
    rw [same (rest ++ more) rest, ih later]

theorem left_append (i : Interpreter σ) {lines : List String} (h : ∀ line ∈ lines, i.Local line)
    (request : Inbound) (more : List String) (world : σ) :
    i.left request (lines ++ more) world = i.left request more (i.left request lines world) := by
  induction lines generalizing world with
  | nil => rfl
  | cons line rest ih =>
    obtain ⟨quiet, same⟩ := h line (by simp)
    have later : ∀ l ∈ rest, i.Local l := fun l hl => h l (by simp [hl])
    simp only [List.cons_append, left, quiet, Bool.false_eq_true, if_false]
    rw [same (rest ++ more) rest, ih later]

theorem halting_append (i : Interpreter σ) {lines : List String}
    (h : ∀ line ∈ lines, i.forwardsLine line = false) (more : List String) :
    i.halting (lines ++ more) = i.halting more := by
  induction lines with
  | nil => rfl
  | cons line rest ih =>
    rw [List.cons_append, halting_cons, ih fun l hl => h l (by simp [hl]), h line (by simp)]
    rfl

theorem halting_of_none (i : Interpreter σ) {lines : List String}
    (h : ∀ line ∈ lines, i.forwardsLine line = false) : i.halting lines = .exhausted := by
  have all := i.halting_append h []
  rwa [List.append_nil] at all

section
variable (i : Interpreter σ) {done : List String}
  (quiet : ∀ l ∈ done, i.forwardsLine l = false) {line : String}
  (forward : i.forwardsLine line = true) (rest : List String)
include quiet forward

theorem started_to_forward : i.started (done ++ line :: rest) = done ++ [line] := by
  rw [i.started_append_of_none quiet, started_cons, if_pos forward]

theorem halting_to_forward : i.halting (done ++ line :: rest) = .forwarded := by
  rw [i.halting_append quiet, halting_cons, if_pos forward]

end

end

theorem forwardsLine_builtin (limit : Span) (line : String) :
    (⟨Verbs.builtin, limit⟩ : Interpreter World).forwardsLine line = Script.posts line := by
  rw [Bool.eq_iff_iff, Script.posts_iff]
  cases hc : Script.Command.parse line with
  | none => simp [forwardsLine, hc]
  | some command => simp [forwardsLine, hc, Verbs.builtin_forwards]

theorem local_of_not_posts (limit : Span) {line : String} (h : Script.posts line = false) :
    (⟨Verbs.builtin, limit⟩ : Interpreter World).Local line := by
  refine ⟨by rw [forwardsLine_builtin, h], fun remainder remainder' request world => ?_⟩
  have quiet := forwardsLine_builtin limit line
  rw [h] at quiet
  cases hc : Script.Command.parse line with
  | none => simp [executeLine, hc]
  | some command =>
    have silent : Verbs.builtin.forwards command = false := by simpa [forwardsLine, hc] using quiet
    simp only [executeLine, hc, Verbs.builtin_remainder silent remainder remainder']

section
variable {R : World → World → Prop} [World.Frame R] (limit : Span)

theorem executeLine_within
    (step : ∀ command context w, R w (Verbs.builtin.execute command context w).2)
    (line : String) (context : Context) (w : World) :
    R w ((⟨Verbs.builtin, limit⟩ : Interpreter World).executeLine line context w).2 := by
  cases hc : Script.Command.parse line with
  | none => simpa [executeLine, hc] using World.Frame.refl w
  | some command => simpa [executeLine, hc] using step command context w

/-- What holds around every step with the built-in verbs holds around a run with them. -/
theorem left_within (step : ∀ command context w, R w (Verbs.builtin.execute command context w).2)
    (request : Inbound) (lines : List String) (w : World) :
    R w ((⟨Verbs.builtin, limit⟩ : Interpreter World).left request lines w) := by
  induction lines generalizing w with
  | nil => exact World.Frame.refl w
  | cons line rest ih =>
    have first := executeLine_within limit step line ⟨rest, request⟩ w
    simp only [left]
    split
    · exact first
    · exact World.Frame.trans first (ih _)

end

theorem executeLine_changes (limit : Span) (line : String) (context : Context) (w : World) :
    World.Changes w ((⟨Verbs.builtin, limit⟩ : Interpreter World).executeLine line context w).2 :=
  executeLine_within limit Verbs.builtin_changes line context w

theorem left_changes (limit : Span) (request : Inbound) (lines : List String) (w : World) :
    World.Changes w ((⟨Verbs.builtin, limit⟩ : Interpreter World).left request lines w) :=
  left_within limit Verbs.builtin_changes request lines w

theorem left_keepsDirect (limit : Span) (request : Inbound) (lines : List String) (w : World) :
    World.KeepsDirect w ((⟨Verbs.builtin, limit⟩ : Interpreter World).left request lines w) :=
  left_within limit Verbs.builtin_keepsDirect request lines w

theorem executeLine_builtin (limit : Span) {line : String} {command : Script.Command} {v : Verb}
    (parsed : Script.Command.parse line = some command) (named : command.verb = v.name)
    (context : Context) (w : World) :
    (⟨Verbs.builtin, limit⟩ : Interpreter World).executeLine line context w =
      let (attempt, next) := (Verbs.builtinHandler v).execute command.args context w
      (attempt.outcome limit, next) := by
  simp only [executeLine, parsed, Registry.execute, named, Registry.resolve_name,
    Verbs.handler?_builtin]

/-- Lines that do not post, and any lines behind them, run as two scripts one
after the other. No command but a POST sees what is behind its line. -/
theorem run_of_append (limit : Span) (clock first second : Clock) (request : Inbound)
    (a b : List String) (w : World)
    (h : ∀ line ∈ a, ∀ args, Script.Command.parse line ≠ some ⟨"HTTP", "POST" :: args⟩) :
    let i : Interpreter World := ⟨Verbs.builtin, limit⟩
    let front := i.runLines first request a w
    let back := i.runLines second request b front.world
    let whole := i.runLines clock request (a ++ b) w
    List.Forall₂ Step.SameButTime whole.transcript.blocks
      (front.transcript.blocks ++ back.transcript.blocks) ∧
    whole.world = back.world ∧
    whole.halt = back.halt ∧
    whole.executed = front.executed + back.executed ∧
    (∃ sent more, front.world.events = w.events ++ sent ∧
      back.world.events = front.world.events ++ more ∧
      whole.world.events = w.events ++ (sent ++ more)) ∧
    ∀ command : Script.Command, (∀ args, command ≠ ⟨"HTTP", "POST" :: args⟩) →
      ∀ remainder remainder' w', Verbs.builtin.execute command ⟨remainder, request⟩ w' =
        Verbs.builtin.execute command ⟨remainder', request⟩ w' := by
  intro i front back whole
  have quiet : ∀ line ∈ a, Script.posts line = false := by
    intro line hl
    rw [Bool.eq_false_iff, ne_eq, Script.posts_iff]
    rintro ⟨args, posted⟩
    exact h line hl args posted
  have keeps : ∀ line ∈ a, i.Local line := fun line hl => local_of_not_posts limit (quiet line hl)
  have silent : ∀ line ∈ a, i.forwardsLine line = false := fun line hl => (keeps line hl).1
  have whole_left : whole.world = back.world := by
    simp only [whole, back, front, runLines_eq, left_append i keeps]
  refine ⟨?_, whole_left, ?_, ?_, ?_, ?_⟩
  · simp only [whole, back, front, runLines_eq, steps_append i keeps, Step.blocks_append]
    exact List.rel_append (Step.sameButTime_blocks _ _ _) (Step.sameButTime_blocks _ _ _)
  · simp only [whole, back, front, runLines_eq, halting_append i silent]
  · simp only [whole, back, front, runLines_executed, started_append_of_none i silent,
      started_of_none i silent, List.length_append]
  · obtain ⟨sent, hs⟩ := World.changes_events (left_changes limit request a w)
    obtain ⟨more, hm⟩ := World.changes_events (left_changes limit request b front.world)
    have front_left : front.world = i.left request a w := by simp only [front, runLines_eq]
    have back_left : back.world = i.left request b front.world := by simp only [back, runLines_eq]
    refine ⟨sent, more, by rw [front_left, hs], by rw [back_left, hm], ?_⟩
    rw [whole_left, back_left, ← hm, front_left, ← hs, List.append_assoc]
  · intro command hc remainder remainder' w'
    have other : Verbs.builtin.forwards command = false := by
      rw [Bool.eq_false_iff, ne_eq, Verbs.builtin_forwards]
      rintro ⟨args, posted⟩
      exact hc args posted
    exact Verbs.builtin_remainder other remainder remainder' request w'

theorem run_of_append_get_then_post :
    let i : Interpreter World := ⟨Verbs.builtin, .ofSeconds 100⟩
    let front := i.runLines (fun _ => 0) .empty ["INFO ENV A", "HTTP GET http://a/"] .still
    let back := i.runLines (fun _ => 0) .empty ["HTTP POST http://b/", "INFO"] front.world
    let whole := i.runLines (fun j => 100 * j) .empty
      ["INFO ENV A", "HTTP GET http://a/", "HTTP POST http://b/", "INFO"] .still
    (∀ line ∈ ["INFO ENV A", "HTTP GET http://a/"], ∀ args,
      Script.Command.parse line ≠ some ⟨"HTTP", "POST" :: args⟩) ∧
    List.Forall₂ Step.SameButTime whole.transcript.blocks
      (front.transcript.blocks ++ back.transcript.blocks) ∧
    whole.world = back.world ∧ whole.halt = .forwarded ∧ whole.executed = 3 := by
  have quiet : ∀ line ∈ ["INFO ENV A", "HTTP GET http://a/"], ∀ args,
      Script.Command.parse line ≠ some ⟨"HTTP", "POST" :: args⟩ := by
    intro line hl args posted
    have posts : Script.posts line = true := (Script.posts_iff line).mpr ⟨args, posted⟩
    simp only [List.mem_cons, List.not_mem_nil, or_false] at hl
    rcases hl with rfl | rfl <;> exact absurd posts (by decide)
  obtain ⟨blocks, world, halt, executed, -⟩ := run_of_append (.ofSeconds 100) (fun j => 100 * j)
    (fun _ => 0) (fun _ => 0) .empty ["INFO ENV A", "HTTP GET http://a/"]
    ["HTTP POST http://b/", "INFO"] .still quiet
  refine ⟨quiet, blocks, world, halt.trans ?_, executed.trans ?_⟩
  · rw [runLines_eq]
    decide
  · rw [runLines_executed, runLines_executed]
    decide

end Interpreter
end HopProbe
