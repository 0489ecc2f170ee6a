import HopProbe.Proofs.Text.Keyed
import HopProbe.Proofs.Verbs.Remainder
import HopProbe.Proofs.World.Change
import HopProbe.Step.Canned
import Mathlib.Data.List.Induction

/-!
# What was registered last

A registry answers from the handlers that were registered with it, in the order
in which they came: a word that is the name of a verb stands for the last of
them that has this verb, and every other word for none.
-/

set_option autoImplicit false

namespace HopProbe
open HopProbe.Text

namespace Registry

section
variable {σ : Type}

theorem handler?_register (r : Registry σ) (h : Handler σ) (v : Verb) :
    (r.register h).handler? v = if h.verb = v then some h else r.handler? v := by
  simp only [register, eq_comm]

/-- Of all that was registered the last counts, and what was there before if there is none. -/
theorem handler?_registerAll (r : Registry σ) (calls : List (Handler σ)) (v : Verb) :
    (r.registerAll calls).handler? v =
      (calls.reverse.find? fun h => h.verb == v).or (r.handler? v) := by
  induction calls using List.reverseRecOn with
  | nil => rfl
  | append_singleton calls h ih =>
    have step : r.registerAll (calls ++ [h]) = (r.registerAll calls).register h := by
      simp only [registerAll, List.foldl_append, List.foldl_cons, List.foldl_nil]
    rw [step, handler?_register, ih, List.reverse_concat, List.find?_cons]
    by_cases named : h.verb = v
    · rw [if_pos named, beq_iff_eq.mpr named]
      rfl
    · rw [if_neg named, beq_eq_false_iff_ne.mpr named]

theorem resolve_eq_some_iff {r : Registry σ} {word : String} {h : Handler σ} :
    r.resolve word = some h ↔ ∃ v : Verb, word = v.name ∧ r.handler? v = some h := by
  constructor
  · intro found
    obtain ⟨v, named, there⟩ := Option.bind_eq_some_iff.mp found
    exact ⟨v, (Verb.name_of_ofName? named).symm, there⟩
  · rintro ⟨v, rfl, there⟩
    rw [resolve_name, there]

theorem mem_usages {r : Registry σ} {v : Verb} {usage : String} :
    (v, usage) ∈ r.usages ↔ ∃ h, r.handler? v = some h ∧ usage = h.usage := by
  simp only [usages, List.mem_filterMap, Option.map_eq_some_iff, Prod.mk.injEq]
  constructor
  · rintro ⟨_, -, h, there, rfl, rfl⟩
    exact ⟨h, there, rfl⟩
  · rintro ⟨h, there, rfl⟩
    exact ⟨v, v.mem_all, h, there, rfl, rfl⟩

theorem usages_ordered (r : Registry σ) :
    (r.usages.map Prod.fst).Pairwise fun v u => v.ctorIdx < u.ctorIdx := by
  have declared : Verb.all.Pairwise fun v u => v.ctorIdx < u.ctorIdx := by decide
  rw [usages, List.pairwise_map, List.pairwise_filterMap]
  refine declared.imp fun {v u} less a first b second => ?_
  obtain ⟨_, -, rfl⟩ := Option.map_eq_some_iff.mp first
  obtain ⟨_, -, rfl⟩ := Option.map_eq_some_iff.mp second
  exact less

end

/-- The registries that handlers are registered with, and what was registered before. -/
inductive Starts : Registry World → List (Handler World) → Prop
  | empty : Starts .empty []
  | builtin : Starts Verbs.builtin (Verb.all.map Verbs.builtinHandler)

variable {base : Registry World} {start : List (Handler World)}

theorem Starts.registerAll_empty (h : Starts base start) : base = Registry.empty.registerAll start := by
  cases h with
  | empty => rfl
  | builtin => rfl

/-- The handler of a verb is the last with this verb in all the history. -/
theorem Starts.handler?_iff (h : Starts base start) (calls : List (Handler World)) {v : Verb}
    {g : Handler World} :
    (base.registerAll calls).handler? v = some g ↔ LastOf Handler.verb v (start ++ calls) g := by
  rw [h.registerAll_empty, handler?_registerAll, handler?_registerAll, handler?_empty,
    Option.or_none, ← List.find?_append, ← List.reverse_append, find?_reverse_eq_some_iff_lastOf]

/-- A registry answers with the handler that was registered last: it is found under the exact
name of its verb, listed in the order of the verbs, and it alone is asked and executed. What is
not the name of a registered verb does nothing. -/
theorem answers_of_history (h : Starts base start) (calls : List (Handler World)) :
    let r := base.registerAll calls
    let history := start ++ calls
    (∀ word g, r.resolve word = some g ↔
      ∃ v : Verb, word = v.name ∧ LastOf Handler.verb v history g) ∧
    (∀ word, (∃ g, r.resolve word = some g) ↔ ∃ g ∈ history, word = g.verb.name) ∧
    (r.usages.map Prod.fst).Pairwise (fun v u => v.ctorIdx < u.ctorIdx) ∧
    (∀ v usage, (v, usage) ∈ r.usages ↔
      ∃ g, LastOf Handler.verb v history g ∧ usage = g.usage) ∧
    ∀ command context world,
      (∀ v g, command.verb = Verb.name v → LastOf Handler.verb v history g →
        r.forwards command = g.forwards command.args ∧
        r.execute command context world = g.execute command.args context world) ∧
      ((∀ g ∈ history, command.verb ≠ g.verb.name) →
        r.forwards command = false ∧ r.execute command context world = (.finished "", world)) := by
  intro r history
  have last {v : Verb} {g : Handler World} :
      r.handler? v = some g ↔ LastOf Handler.verb v history g := h.handler?_iff calls
  have found {word : String} {g : Handler World} : r.resolve word = some g ↔
      ∃ v : Verb, word = v.name ∧ LastOf Handler.verb v history g := by
    simp only [resolve_eq_some_iff, last]
  have named {word : String} :
      (∃ g, r.resolve word = some g) ↔ ∃ g ∈ history, word = g.verb.name := by
    simp only [found]
    constructor
    · rintro ⟨g, v, rfl, latest⟩
      exact ⟨g, latest.mem, congrArg Verb.name latest.keyed.symm⟩
    · rintro ⟨g, there, rfl⟩
      obtain ⟨f, latest⟩ := exists_lastOf_iff.mpr ⟨g, there, rfl⟩
      exact ⟨f, g.verb, rfl, latest⟩
  refine ⟨fun _ _ => found, fun _ => named, r.usages_ordered, fun v usage => ?_,
    fun command context world => ⟨fun v g same latest => ?_, fun other => ?_⟩⟩
  · simp only [mem_usages, last]
  · have handled := found.mpr ⟨v, same, latest⟩
    simp only [forwards, execute, handled, and_self]
  · have none : r.resolve command.verb = none := by
      rw [Option.eq_none_iff_forall_ne_some]
      intro g handled
      obtain ⟨f, there, same⟩ := named.mp ⟨g, handled⟩
      exact other f there same
    simp only [forwards, execute, none, and_self]

theorem answers_of_history_of_two_more :
    let first := Canned.handler World ⟨.info, "<old>", none, none, "", none, some "old"⟩
    let second := Canned.handler World ⟨.info, "<new>", some "ON", none, "", none, some "new"⟩
    let r := Verbs.builtin.registerAll [first, second]
    let context : Context := ⟨[], .empty⟩
    r.execute ⟨"INFO", ["HOSTNAME"]⟩ context World.still = (.finished "new", World.still) ∧
      r.forwards ⟨"INFO", ["ON"]⟩ = true ∧ (.info, "<new>") ∈ r.usages ∧
      r.execute ⟨"Info", ["HOSTNAME"]⟩ context World.still = (.finished "", World.still) ∧
      r.forwards ⟨"INFO ", ["ON"]⟩ = false := by
  intro first second r context
  obtain ⟨-, -, -, listed, asked⟩ := answers_of_history .builtin [first, second]
  have latest : LastOf Handler.verb .info (Verb.all.map Verbs.builtinHandler ++ [first, second])
      second := ⟨rfl, Verb.all.map Verbs.builtinHandler ++ [first], [], by simp, nofun⟩
  have unnamed {word : String} (other : ∀ v ∈ Verb.all, word ≠ v.name) :
      ∀ g ∈ Verb.all.map Verbs.builtinHandler ++ [first, second], word ≠ g.verb.name :=
    fun g _ => other g.verb g.verb.mem_all
  exact ⟨((asked ⟨"INFO", ["HOSTNAME"]⟩ context World.still).1 .info second rfl latest).2,
    ((asked ⟨"INFO", ["ON"]⟩ context World.still).1 .info second rfl latest).1,
    (listed .info "<new>").mpr ⟨second, latest, rfl⟩,
    ((asked ⟨"Info", ["HOSTNAME"]⟩ context World.still).2 (unnamed (by decide))).2,
    ((asked ⟨"INFO ", ["ON"]⟩ context World.still).2 (unnamed (by decide))).1⟩

end Registry
end HopProbe
