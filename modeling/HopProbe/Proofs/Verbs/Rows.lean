import HopProbe.Proofs.Text.Printable
import HopProbe.Proofs.Verbs.Requests

/-!
# The rows of a query

A query fails with the first error that the engine reports, at a row as well
as before the first. Without one, every row is read with as many values as
there are columns.
-/

set_option autoImplicit false

namespace HopProbe.Verbs.Sql
open HopProbe.Text

theorem cells_succ (n : Nat) (row : List SqlValue) :
    cells (n + 1) row = (cells n row).bind fun values =>
      match row[n]? with
      | some value => .ok (values ++ [value])
      | none => .error (noColumn n) := by
  unfold cells
  rw [List.range_succ, List.mapM_append]
  cases there : row[n]? with
  | some value => simp [there, bind, Except.bind, pure, Except.pure]
  | none => simp [there, bind, Except.bind]

theorem cells_of_le {n : Nat} {row : List SqlValue} (h : n ≤ row.length) :
    cells n row = .ok (row.take n) := by
  induction n with
  | zero => rfl
  | succ n ih =>
    have inside : n < row.length := h
    have value : row[n]? = some row[n] := List.getElem?_eq_getElem inside
    rw [cells_succ, ih (by omega), value]
    simp [Except.bind, List.take_append_getElem]

theorem cells_of_lt {n : Nat} {row : List SqlValue} (h : row.length < n) :
    cells n row = .error (noColumn row.length) := by
  induction n with
  | zero => omega
  | succ n ih =>
    rw [cells_succ]
    by_cases shorter : row.length < n
    · rw [ih shorter]
      rfl
    · obtain rfl : row.length = n := by omega
      rw [cells_of_le (Nat.le_refl _), List.getElem?_eq_none (Nat.le_refl _)]
      rfl

def Full (n : Nat) (given : List (Except String (List SqlValue))) (rows : List (List SqlValue)) :
    Prop :=
  given = rows.map .ok ∧ ∀ row ∈ rows, n ≤ row.length

/-- Rows among which one cannot be read, and what is said of the first such. -/
inductive Broken (n : Nat) : List (Except String (List SqlValue)) → String → Prop
  | reported (text : String) (rest : List (Except String (List SqlValue))) :
    Broken n (.error text :: rest) text
  | short {row : List SqlValue} (h : row.length < n) (rest : List (Except String (List SqlValue))) :
    Broken n (.ok row :: rest) (noColumn row.length)
  | later {row : List SqlValue} {rest : List (Except String (List SqlValue))} {text : String}
    (full : n ≤ row.length) (more : Broken n rest text) : Broken n (.ok row :: rest) text

theorem readRows_of_full {n : Nat} {given : List (Except String (List SqlValue))}
    {rows : List (List SqlValue)} (h : Full n given rows) :
    readRows n given = .ok (rows.map (List.take n)) := by
  obtain ⟨rfl, full⟩ := h
  induction rows with
  | nil => rfl
  | cons row rest ih =>
    have more := ih fun r hr => full r (by simp [hr])
    simp [readRows, more, cells_of_le (full row (by simp)), bind, Except.bind, pure, Except.pure]

theorem readRows_of_broken {n : Nat} {given : List (Except String (List SqlValue))} {text : String}
    (h : Broken n given text) : readRows n given = .error text := by
  induction h with
  | reported text rest => rfl
  | short h rest => simp [readRows, cells_of_lt h, bind, Except.bind]
  | later full more ih => simp [readRows, cells_of_le full, ih, bind, Except.bind]

theorem full_or_broken (n : Nat) (given : List (Except String (List SqlValue))) :
    (∃ rows, Full n given rows) ∨ ∃ text, Broken n given text := by
  induction given with
  | nil => exact Or.inl ⟨[], rfl, by simp⟩
  | cons next rest ih =>
    cases next with
    | error text => exact Or.inr ⟨text, .reported text rest⟩
    | ok row =>
      by_cases h : n ≤ row.length
      · rcases ih with ⟨rows, same, full⟩ | ⟨text, broken⟩
        · exact Or.inl ⟨row :: rows, by simp [same], by simpa [h] using full⟩
        · exact Or.inr ⟨text, .later h broken⟩
      · exact Or.inr ⟨_, .short (by omega) rest⟩

def found (path query : String) (w : World) : Except String SqlResult :=
  match takeAnswer path query w.answers with
  | none => .error (unavailable ++ ": " ++ path)
  | some (answer, _) =>
    match answer.result with
    | .error text => .error text
    | .ok result => if isVacant query then .error misuse else .ok result

theorem run_ask (path query : String) (w : World) :
    ∃ next, (ask path query).run.run w =
      match found path query w with
      | .ok result => (.ok result, next)
      | .error text => (.error (.fault (.sql text)), next) := by
  have asked : (ask path query).run.run w = (match takeAnswer path query w.answers with
      | none => Effect.fault (.sql (unavailable ++ ": " ++ path))
      | some (answer, answers) => do
        modify fun w => { w with answers }
        let result ← Effect.ofExcept Fault.sql answer.result
        if isVacant query then Effect.fault (.sql misuse) else return result : Effect SqlResult).run.run
      (w.record (.query path query)) := rfl
  rw [asked]
  unfold found
  cases takeAnswer path query w.answers with
  | none => exact ⟨w.record (.query path query), rfl⟩
  | some taken =>
    obtain ⟨answer, answers⟩ := taken
    dsimp only
    cases answer.result with
    | error text => exact ⟨{ w.record (.query path query) with answers }, rfl⟩
    | ok result =>
      refine ⟨{ w.record (.query path query) with answers }, ?_⟩
      by_cases vacant : isVacant query
      · simp only [vacant, if_true]
        rfl
      · simp only [vacant, Bool.false_eq_true, if_false]
        rfl

def answered (action : Action) (w : World) : Except String String := do
  let result ← found (databasePath action.connection) action.query w
  let rows ← readRows result.columns.length result.rows
  return String.intercalate "\n" (table result.columns rows)

theorem run_perform (action : Action) (context : Context) (w : World) :
    ((perform action context).run.run w).1 =
      match answered action w with
      | .ok text => .ok text
      | .error text => .error (.fault (.sql text)) := by
  obtain ⟨next, asked⟩ := run_ask (databasePath action.connection) action.query w
  unfold perform answered
  rw [Effect.run_bind, asked]
  cases found (databasePath action.connection) action.query w with
  | error text => rfl
  | ok result =>
    dsimp only
    rw [Effect.run_bind]
    cases read : readRows result.columns.length result.rows with
    | error text => simp only [Effect.run_ofExcept_error, bind, Except.bind, read]
    | ok rows =>
      rw [Effect.run_ofExcept_ok]
      simp only [bind, Except.bind, read]
      rfl

theorem read_eq_ok_iff {args : List String} {action : Action} :
    read args = .ok action ↔ ∃ more, args = action.query :: action.connection :: more := by
  constructor
  · intro h
    obtain ⟨query, first, h⟩ := bind_eq_ok h
    obtain ⟨connection, second, h⟩ := bind_eq_ok h
    cases h
    match args, getElem?_of_argument first, getElem?_of_argument second with
    | _ :: _ :: more, rfl, rfl => exact ⟨more, rfl⟩
  · rintro ⟨more, rfl⟩
    rfl

theorem execute_of_read {args : List String} {action : Action} (h : read args = .ok action)
    (context : Context) (w : World) : ((builtinHandler .sql).execute args context w).1 =
      match answered action w with
      | .ok text => .finished text
      | .error text => .failed (.fault (.sql text)) := by
  have executed : (builtinHandler .sql).execute args context w = (perform action context).outcome w :=
    phases.execute_of_read_ok h context w
  rw [executed, Effect.outcome_attempt, run_perform action context w]
  cases answered action w with
  | ok text => rfl
  | error text => rfl

end HopProbe.Verbs.Sql
