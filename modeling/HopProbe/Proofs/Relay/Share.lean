import HopProbe.Proofs.Run.Composition

/-!
# The share of each hop in a script

A line belongs to the hop whose number is the count of lines before it that
post. The shares of all hops are the script, and the share of a hop is what
its probe starts, if it is given the lines behind the posting lines so far.
-/

set_option autoImplicit false

namespace HopProbe.Script

/-- The lines that have as many posting lines before them. -/
def share (hop : Nat) (script : List String) : List String :=
  (script.zipIdx.filter fun (_, j) => (script.take j).countP posts == hop).map Prod.fst

def behind : Nat → List String → List String
  | 0, script => script
  | _ + 1, [] => []
  | hop + 1, line :: rest => if posts line then behind hop rest else behind (hop + 1) rest

theorem share_zero_cons (line : String) (rest : List String) :
    share 0 (line :: rest) = line :: if posts line then [] else share 0 rest := by
  unfold share
  rw [List.zipIdx_cons, List.zipIdx_succ]
  by_cases h : posts line
  · simp [h, List.filter_map, Function.comp_def]
  · simp [h, List.filter_map, Function.comp_def]

theorem share_succ_cons (hop : Nat) (line : String) (rest : List String) :
    share (hop + 1) (line :: rest) = if posts line then share hop rest else share (hop + 1) rest := by
  unfold share
  rw [List.zipIdx_cons, List.zipIdx_succ]
  by_cases h : posts line
  · simp [h, List.filter_map, Function.comp_def]
  · simp [h, List.filter_map, Function.comp_def]

theorem flatMap_share (script : List String) :
    (List.range (script.countP posts + 1)).flatMap (fun hop => share hop script) = script := by
  induction script with
  | nil => rfl
  | cons line rest ih =>
    by_cases h : posts line
    · rw [List.countP_cons_of_pos h, List.range_succ_eq_map, List.flatMap_cons, List.flatMap_map]
      simp only [share_zero_cons, share_succ_cons, h, if_true]
      rw [ih]
      rfl
    · rw [List.countP_cons_of_neg h]
      rw [List.range_succ_eq_map, List.flatMap_cons, List.flatMap_map] at ih ⊢
      simp only [share_zero_cons, share_succ_cons, h]
      exact congrArg (line :: ·) ih

theorem started_behind (limit : Span) (hop : Nat) (script : List String) :
    (⟨Verbs.builtin, limit⟩ : Interpreter World).started (behind hop script) = share hop script := by
  induction script generalizing hop with
  | nil => cases hop <;> rfl
  | cons line rest ih =>
    cases hop with
    | zero =>
      have first := ih 0
      rw [behind] at first
      rw [behind, Interpreter.started_cons, Interpreter.forwardsLine_builtin, share_zero_cons, first]
    | succ hop =>
      rw [behind, share_succ_cons]
      by_cases h : posts line
      · rw [if_pos h, if_pos h, ih]
      · rw [if_neg h, if_neg h, ih]

theorem countP_behind (hop : Nat) (script : List String) :
    (behind hop script).countP posts = script.countP posts - hop := by
  induction script generalizing hop with
  | nil => cases hop <;> simp [behind]
  | cons line rest ih =>
    cases hop with
    | zero => rfl
    | succ hop =>
      rw [behind]
      by_cases h : posts line
      · rw [if_pos h, ih, List.countP_cons_of_pos h]
        omega
      · rw [if_neg h, ih, List.countP_cons_of_neg h]

theorem share_of_lt {hop : Nat} {script : List String} (h : script.countP posts < hop) :
    share hop script = [] := by
  induction script generalizing hop with
  | nil => rfl
  | cons line rest ih =>
    cases hop with
    | zero => omega
    | succ hop =>
      rw [share_succ_cons]
      by_cases hp : posts line
      · rw [List.countP_cons_of_pos hp] at h
        rw [if_pos hp]
        exact ih (by omega)
      · rw [List.countP_cons_of_neg hp] at h
        rw [if_neg hp]
        exact ih h

theorem exists_post {hop : Nat} {script : List String} (h : hop < script.countP posts) :
    ∃ front before line after, script = front ++ line :: after ∧ front.countP posts = hop ∧
      behind hop script = before ++ line :: after ∧ (∀ l ∈ before, posts l = false) ∧
      posts line = true ∧ behind (hop + 1) script = after := by
  induction script generalizing hop with
  | nil => simp at h
  | cons first rest ih =>
    by_cases hp : posts first
    · rw [List.countP_cons_of_pos hp] at h
      cases hop with
      | zero => exact ⟨[], [], first, rest, rfl, rfl, rfl, by simp, hp, by simp [behind, hp]⟩
      | succ hop =>
        have fewer : hop < rest.countP posts := by omega
        obtain ⟨front, before, line, after, hs, count, here, quiet, post, there⟩ := ih fewer
        refine ⟨first :: front, before, line, after, ?_, ?_, ?_, quiet, post, ?_⟩
        · rw [hs, List.cons_append]
        · rw [List.countP_cons_of_pos hp, count]
        · rw [behind, if_pos hp, here]
        · rw [behind, if_pos hp, there]
    · rw [List.countP_cons_of_neg hp] at h
      obtain ⟨front, before, line, after, hs, count, here, quiet, post, there⟩ := ih h
      have count' : (first :: front).countP posts = hop := by
        rw [List.countP_cons_of_neg hp, count]
      have there' : behind (hop + 1) (first :: rest) = after := by
        rw [behind, if_neg hp, there]
      cases hop with
      | zero =>
        refine ⟨first :: front, first :: before, line, after, ?_, count', ?_, ?_, post, there'⟩
        · rw [hs, List.cons_append]
        · rw [behind] at here ⊢
          rw [here, List.cons_append]
        · intro l hl
          rcases List.mem_cons.mp hl with rfl | hl
          · simpa using hp
          · exact quiet l hl
      | succ hop =>
        refine ⟨first :: front, before, line, after, ?_, count', ?_, quiet, post, there'⟩
        · rw [hs, List.cons_append]
        · rw [behind, if_neg hp, here]

end HopProbe.Script
