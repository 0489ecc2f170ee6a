import HopProbe.Proofs.Text.Cut
import HopProbe.Run.Transcript
import Mathlib.Data.List.Basic

/-!
# How a transcript grows

Blocks can be started and finished in any order: a block may be finished more
than once or never, under the line of another, and before the first start there
is nothing to finish. In whatever order, text is only added at the end. A block
is settled once another stands behind it, and the blank row between the two
comes with the second, so that the first is not touched by it either.
-/

set_option autoImplicit false

namespace HopProbe.Transcript
open HopProbe.Text

inductive Call where
  | start (line : String)
  | finish (line : String) (outcome : Outcome) (elapsed : Elapsed)
  deriving DecidableEq, Repr

def Call.isStart : Call → Bool
  | .start _ => true
  | .finish .. => false

def call (t : Transcript) : Call → Transcript
  | .start line => t.start line
  | .finish line outcome elapsed => t.finish line outcome elapsed

/-- The transcript that calls make, from the first one on. -/
def after (calls : List Call) : Transcript := calls.foldl call empty

def Call.added (blocks : Nat) : Call → String
  | .start line => if blocks = 0 then opening line else "\n" ++ opening line
  | .finish line outcome elapsed => if blocks = 0 then "" else closing line outcome elapsed

/-- A later state: blocks with others behind them are the same, and the text goes on. -/
structure Grows (t u : Transcript) : Prop where
  settled : t.blocks.dropLast <+: u.blocks.dropLast
  rendered : t.render.toList <+: u.render.toList

theorem Grows.refl (t : Transcript) : Grows t t := ⟨List.prefix_rfl, List.prefix_rfl⟩

theorem Grows.trans {t u v : Transcript} (first : Grows t u) (second : Grows u v) : Grows t v :=
  ⟨first.settled.trans second.settled, first.rendered.trans second.rendered⟩

theorem Grows.getElem? {t u : Transcript} (h : Grows t u) {j : Nat} (settled : j + 1 < t.steps) :
    u.blocks[j]? = t.blocks[j]? := by
  have inside : j < t.blocks.length - 1 := Nat.lt_sub_of_add_lt settled
  have later : j < u.blocks.length - 1 := by
    simpa using Nat.lt_of_lt_of_le inside (by simpa using h.settled.length_le)
  have same := List.prefix_iff_getElem?.mp h.settled j (by simpa using inside)
  rw [List.getElem?_dropLast, if_pos later, List.getElem_dropLast] at same
  rw [same, List.getElem?_eq_getElem]

theorem render_concat {front : List String} (filled : front ≠ []) (last : String) :
    render ⟨front ++ [last]⟩ = render ⟨front⟩ ++ "\n" ++ last := by
  rw [← String.toList_inj]
  simp only [render, String.toList_append, String.toList_intercalate, ← joined_eq_intercalate,
    List.map_append, List.map_singleton, List.append_assoc]
  exact joined_concat _ (mt List.map_eq_nil_iff.mp filled) _

theorem render_extended (front : List String) (last added : String) :
    render ⟨front ++ [last ++ added]⟩ = render ⟨front ++ [last]⟩ ++ added := by
  cases front with
  | nil => simp [render]
  | cons b front =>
    rw [render_concat (List.cons_ne_nil b front), render_concat (List.cons_ne_nil b front),
      String.append_assoc, String.append_assoc, String.append_assoc]

theorem render_call (t : Transcript) (c : Call) :
    (t.call c).render = t.render ++ c.added t.steps := by
  rcases List.eq_nil_or_concat' t.blocks with none | ⟨front, last, split⟩
  · obtain rfl : t = empty := congrArg mk none
    cases c <;> rfl
  · obtain rfl : t = ⟨front ++ [last]⟩ := congrArg mk split
    have some : (mk (front ++ [last])).steps ≠ 0 := by simp [steps]
    cases c with
    | start line =>
      rw [Call.added, if_neg some, ← String.append_assoc]
      exact render_concat (by simp) (opening line)
    | finish line outcome elapsed =>
      rw [Call.added, if_neg some, ← render_extended, call, finish, extendLast_append]

theorem dropLast_finish (t : Transcript) (line : String) (outcome : Outcome) (elapsed : Elapsed) :
    (t.finish line outcome elapsed).blocks.dropLast = t.blocks.dropLast := by
  show (extendLast _ t.blocks).dropLast = _
  rcases List.eq_nil_or_concat' t.blocks with none | ⟨front, last, split⟩
  · obtain rfl : t = empty := congrArg mk none
    rfl
  · rw [split, extendLast_append, List.dropLast_concat, List.dropLast_concat]

theorem dropLast_call (t : Transcript) (c : Call) :
    t.blocks.dropLast <+: (t.call c).blocks.dropLast := by
  cases c with
  | start line =>
    show _ <+: (t.blocks ++ [opening line]).dropLast
    rw [List.dropLast_concat]
    exact List.dropLast_prefix _
  | finish line outcome elapsed =>
    exact (dropLast_finish t line outcome elapsed).symm ▸ List.prefix_rfl

theorem grows_call (t : Transcript) (c : Call) : Grows t (t.call c) := by
  refine ⟨dropLast_call t c, ?_⟩
  rw [render_call, String.toList_append]
  exact List.prefix_append _ _

theorem grows_calls (t : Transcript) (calls : List Call) : Grows t (calls.foldl call t) := by
  induction calls generalizing t with
  | nil => exact .refl t
  | cons c calls ih => exact (grows_call t c).trans (ih (t.call c))

theorem steps_call (t : Transcript) (c : Call) :
    (t.call c).steps = t.steps + if c.isStart then 1 else 0 := by
  cases c with
  | start line => exact steps_start t line
  | finish line outcome elapsed => exact steps_finish t line outcome elapsed

theorem steps_calls (t : Transcript) (calls : List Call) :
    (calls.foldl call t).steps = t.steps + calls.countP Call.isStart := by
  induction calls generalizing t with
  | nil => rfl
  | cons c calls ih => rw [List.foldl_cons, ih, steps_call, List.countP_cons, Nat.add_right_comm,
      Nat.add_assoc]

theorem after_append (calls more : List Call) : after (calls ++ more) = more.foldl call (after calls) :=
  List.foldl_append

theorem after_of_no_start {calls : List Call} (h : ∀ c ∈ calls, c.isStart = false) :
    after calls = empty := by
  have none := steps_calls empty calls
  rw [List.countP_eq_zero.mpr fun c hc => by simp [h c hc]] at none
  exact congrArg mk (List.eq_nil_of_length_eq_zero none)

/-- However a transcript is used, it has one block for each start and none that was finished before
the first; a block stays as it is once another stands behind it, and a call adds its text to the end
of what was there. -/
theorem grows_in_any_use (calls more : List Call) :
    let t := after calls
    let u := after (calls ++ more)
    t.steps = calls.countP Call.isStart ∧
    ((∀ c ∈ calls, c.isStart = false) → t = empty ∧ u = after more) ∧
    (∀ j, j + 1 < t.steps → u.blocks[j]? = t.blocks[j]?) ∧
    (∀ c, (after (calls ++ [c])).render = t.render ++ c.added t.steps) ∧
    t.render.toList <+: u.render.toList := by
  intro t u
  have later : Grows t u := by
    rw [show u = more.foldl call t from after_append calls more]
    exact grows_calls t more
  refine ⟨?_, fun none => ?_, fun j settled => later.getElem? settled, fun c => ?_, later.rendered⟩
  · exact (steps_calls empty calls).trans (Nat.zero_add _)
  · have start : t = empty := after_of_no_start none
    exact ⟨start, by rw [show u = more.foldl call t from after_append calls more, start, after]⟩
  · rw [after_append]
    exact render_call t c

theorem grows_in_any_use_of_unbalanced_calls :
    let early : Call := .finish "A" (.success "lost") 1
    let calls : List Call := [.start "A", .finish "B" (.success "x\n") 20,
      .finish "A" (.failure "late") 300, .start "C"]
    let more : List Call := [.start "D", .finish "C" (.success "") 12345]
    early.isStart = false ∧ after [early] = empty ∧ after ([early] ++ calls) = after calls ∧
      (after calls).steps = 2 ∧ 0 + 1 < (after calls).steps ∧
      (after (calls ++ more)).blocks[0]? =
        some "-> Start: A\nx\n<- End: B 0.20ms\nERROR: late\n<- End: A 3.00ms\n" ∧
      (after (calls ++ [.start "D"])).render = (after calls).render ++ "\n-> Start: D\n" ∧
      (after calls).render.toList <+: (after (calls ++ more)).render.toList := by
  intro early calls more
  obtain ⟨-, unstarted, -⟩ := grows_in_any_use [early] calls
  obtain ⟨nothing, passed⟩ := unstarted (by decide)
  obtain ⟨count, -, settled, added, longer⟩ := grows_in_any_use calls more
  have two : (after calls).steps = 2 := count
  refine ⟨rfl, nothing, passed, two, by omega, ?_, ?_, longer⟩
  · rw [settled 0 (by omega)]
    decide +kernel
  · rw [added, two]
    rfl

end HopProbe.Transcript
