import HopProbe.Proofs.Run.Steps
import HopProbe.Proofs.Verbs.Remainder

/-!
# What a run takes from the request that brought its script

Only HEADER and CONNECTION read the request, and they do nothing but show it.
Two runs of one script in one world therefore differ in the blocks of these
two verbs alone, whatever requests brought the script.
-/

set_option autoImplicit false

namespace HopProbe

namespace Verbs

theorem builtinHandler_inbound {v : Verb} (header : v ≠ .header) (connection : v ≠ .connection)
    (args : List String) (remainder : List String) (request request' : Inbound) (w : World) :
    (builtinHandler v).execute args ⟨remainder, request'⟩ w =
      (builtinHandler v).execute args ⟨remainder, request⟩ w := by
  cases v with
  | header => exact absurd rfl header
  | connection => exact absurd rfl connection
  | _ => rfl

theorem builtinHandler_shows {v : Verb} (h : v = .header ∨ v = .connection) (args : List String)
    (context : Context) (w : World) : ((builtinHandler v).execute args context w).2 = w := by
  rcases h with rfl | rfl
  · rfl
  · rfl

theorem builtin_inbound {command : Script.Command} (header : command.verb ≠ "HEADER")
    (connection : command.verb ≠ "CONNECTION") (remainder : List String)
    (request request' : Inbound) (w : World) :
    builtin.execute command ⟨remainder, request'⟩ w =
      builtin.execute command ⟨remainder, request⟩ w := by
  cases hv : Verb.ofName? command.verb with
  | none => simp [Registry.execute, Registry.resolve, hv]
  | some v =>
    have name := Verb.name_of_ofName? hv
    have noHeader : v ≠ .header := by
      rintro rfl
      exact header name.symm
    have noConnection : v ≠ .connection := by
      rintro rfl
      exact connection name.symm
    simpa [Registry.execute, Registry.resolve, hv, handler?_builtin] using
      builtinHandler_inbound noHeader noConnection command.args remainder request request' w

/-- The world that a step leaves does not depend on the request. -/
theorem builtin_inbound_world (command : Script.Command) (remainder : List String)
    (request request' : Inbound) (w : World) :
    (builtin.execute command ⟨remainder, request'⟩ w).2 =
      (builtin.execute command ⟨remainder, request⟩ w).2 := by
  cases hv : Verb.ofName? command.verb with
  | none => simp [Registry.execute, Registry.resolve, hv]
  | some v =>
    have same : ((builtinHandler v).execute command.args ⟨remainder, request'⟩ w).2 =
        ((builtinHandler v).execute command.args ⟨remainder, request⟩ w).2 := by
      by_cases shows : v = .header ∨ v = .connection
      · rw [builtinHandler_shows shows, builtinHandler_shows shows]
      · rw [not_or] at shows
        rw [builtinHandler_inbound shows.1 shows.2]
    simpa [Registry.execute, Registry.resolve, hv, handler?_builtin] using same

end Verbs

def Script.ShowsInbound (line : String) : Prop :=
  ∃ args, Command.parse line = some ⟨"HEADER", args⟩ ∨
    Command.parse line = some ⟨"CONNECTION", args⟩

/-- Steps of one line, with one outcome unless the line shows the request. -/
def Step.Alike (s s' : Step) : Prop :=
  s'.line = s.line ∧ (¬ Script.ShowsInbound s.line → s'.outcome = s.outcome)

namespace Interpreter

theorem executeLine_inbound_world (limit : Span) (line : String) (remainder : List String)
    (request request' : Inbound) (w : World) :
    let i : Interpreter World := ⟨Verbs.builtin, limit⟩
    (i.executeLine line ⟨remainder, request'⟩ w).2 =
      (i.executeLine line ⟨remainder, request⟩ w).2 := by
  intro i
  cases hc : Script.Command.parse line with
  | none => simp only [executeLine, hc]
  | some command =>
    simp only [executeLine, hc]
    exact Verbs.builtin_inbound_world command remainder request request' w

theorem executeLine_inbound (limit : Span) {line : String} (h : ¬ Script.ShowsInbound line)
    (remainder : List String) (request request' : Inbound) (w : World) :
    let i : Interpreter World := ⟨Verbs.builtin, limit⟩
    i.executeLine line ⟨remainder, request'⟩ w = i.executeLine line ⟨remainder, request⟩ w := by
  intro i
  cases hc : Script.Command.parse line with
  | none => simp only [executeLine, hc]
  | some command =>
    have header : command.verb ≠ "HEADER" := by
      intro named
      exact h ⟨command.args, Or.inl (by rw [hc, ← named])⟩
    have connection : command.verb ≠ "CONNECTION" := by
      intro named
      exact h ⟨command.args, Or.inr (by rw [hc, ← named])⟩
    simp only [executeLine, hc, i, Verbs.builtin_inbound header connection remainder request request']

theorem left_inbound (limit : Span) (request request' : Inbound) (lines : List String) (w : World) :
    let i : Interpreter World := ⟨Verbs.builtin, limit⟩
    i.left request' lines w = i.left request lines w := by
  intro i
  induction lines generalizing w with
  | nil => rfl
  | cons line rest ih =>
    have same := executeLine_inbound_world limit line rest request request' w
    simp only [left]
    rw [same, ih]

theorem steps_inbound (limit : Span) (request request' : Inbound) (lines : List String) (w : World) :
    let i : Interpreter World := ⟨Verbs.builtin, limit⟩
    List.Forall₂ Step.Alike (i.steps request lines w) (i.steps request' lines w) := by
  intro i
  induction lines generalizing w with
  | nil => exact .nil
  | cons line rest ih =>
    simp only [steps]
    constructor
    · constructor
      · rfl
      · intro quiet
        exact congrArg Prod.fst (executeLine_inbound limit quiet rest request request' w)
    · rw [executeLine_inbound_world limit line rest request request' w]
      split
      · exact .nil
      · exact ih _

theorem alike_at (limit : Span) (request request' : Inbound) {lines : List String} {w : World}
    {j : Nat} {s : Step}
    (h : ((⟨Verbs.builtin, limit⟩ : Interpreter World).steps request lines w)[j]? = some s) :
    ∃ s', ((⟨Verbs.builtin, limit⟩ : Interpreter World).steps request' lines w)[j]? = some s' ∧
      s.Alike s' := by
  obtain ⟨inside, rfl⟩ := List.getElem?_eq_some_iff.mp h
  have alike := steps_inbound limit request request' lines w
  have inside' := alike.length_eq ▸ inside
  exact ⟨_, List.getElem?_eq_getElem inside', alike.get inside inside'⟩

/-- Two requests that bring one script to one world start the same lines, stop
for the same reason and leave the same world, with all that was sent and
reached for in it. Their transcripts show the same outcomes but for lines that
show the request. -/
theorem run_of_any_inbound (limit : Span) (clock clock' : Clock) (request request' : Inbound)
    (lines : List String) (w : World) :
    let i : Interpreter World := ⟨Verbs.builtin, limit⟩
    let run := i.runLines clock request lines w
    let run' := i.runLines clock' request' lines w
    run'.executed = run.executed ∧ run'.halt = run.halt ∧ run'.world = run.world ∧
    ∀ j line, (lines.take run.executed)[j]? = some line → ∃ outcome outcome',
      run.transcript.blocks[j]? = some (Step.block ⟨line, outcome⟩ (clock j)) ∧
      run'.transcript.blocks[j]? = some (Step.block ⟨line, outcome'⟩ (clock' j)) ∧
      (¬ Script.ShowsInbound line → outcome' = outcome) := by
  intro i run run'
  refine ⟨?_, ?_, ?_, ?_⟩
  · simp only [run, run', runLines_executed]
  · simp only [run, run', runLines_eq]
  · simp only [run, run', runLines_eq]
    exact left_inbound limit request request' lines w
  · intro j line hj
    have started : lines.take run.executed = (i.steps request lines w).map Step.line := by
      simp only [run, runLines_executed, take_length_started, steps_lines]
    rw [started, List.getElem?_map, Option.map_eq_some_iff] at hj
    obtain ⟨s, hs, rfl⟩ := hj
    obtain ⟨s', hs', same, outcomes⟩ := alike_at limit request request' hs
    refine ⟨s.outcome, s'.outcome, ?_, ?_, outcomes⟩
    · exact runLines_block i clock request lines w hs
    · have block := runLines_block i clock' request' lines w hs'
      rw [block, ← same]

end Interpreter
end HopProbe
