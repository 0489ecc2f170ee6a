import HopProbe.Proofs.Run.Block
import HopProbe.Proofs.Run.Composition
import HopProbe.Proofs.Verbs.Rows

/-!
# The table of a query in a transcript

A query that succeeds puts out a line of the column names and one line for
each row. The transcript shows them all, but for empty lines at the end: a last
row of one column whose value has no text is not there. A query that fails at
any row shows none.
-/

set_option autoImplicit false

namespace HopProbe.Verbs.Sql
open HopProbe.Text

def lines (columns : List String) (rows : List (List String)) : List String :=
  String.intercalate ";" columns ::
    if rows = [] then ["No rows found."] else rows.map fun row => String.intercalate ";" row

def texts (columns : List String) (row : List SqlValue) : List String :=
  (row.take columns.length).map valueText

theorem table_eq (columns : List String) (rows : List (List SqlValue)) :
    table columns (rows.map (List.take columns.length)) =
      lines columns (rows.map (texts columns)) := by
  cases rows with
  | nil => rfl
  | cons row rest => simp [table, lines, line, texts]

theorem unbroken_intercalate {cells : List String} (h : ∀ cell ∈ cells, Unbroken cell) :
    Unbroken (String.intercalate ";" cells) := by
  intro c hc
  rw [String.toList_intercalate, ← joined_eq_intercalate] at hc
  rcases mem_joined hc with hc | ⟨cell, inside, hc⟩
  · rw [List.mem_singleton.mp hc]
    rfl
  · obtain ⟨text, there, rfl⟩ := List.mem_map.mp inside
    exact h text there c hc

structure Flat (columns : List String) (rows : List (List SqlValue)) : Prop where
  names : ∀ name ∈ columns, Unbroken name
  texts : ∀ row ∈ rows, ∀ bytes, .text bytes ∈ row → Unbroken (Utf8.textLossy bytes)

theorem unbroken_valueText {value : SqlValue}
    (h : ∀ bytes, value = .text bytes → Unbroken (Utf8.textLossy bytes)) :
    Unbroken (valueText value) := by
  cases value with
  | null =>
    intro c hc
    cases hc
  | integer n => exact unbroken_of_printable (printable_int n)
  | real bits => exact unbroken_of_printable (Real.printable_text _)
  | text bytes => exact h bytes rfl
  | blob bytes => exact unbroken_of_printable (Base64.printable_text bytes)

theorem unbroken_lines {columns : List String}
    {rows : List (List SqlValue)} (flat : Flat columns rows) :
    ∀ line ∈ lines columns (rows.map (texts columns)), Unbroken line := by
  have header := unbroken_intercalate flat.names
  intro line there
  rcases List.mem_cons.mp there with rfl | there
  · exact header
  · split at there
    · rw [List.mem_singleton.mp there]
      exact unbroken_of_printable (by decide)
    · obtain ⟨cells, made, rfl⟩ := List.mem_map.mp there
      obtain ⟨row, inside, rfl⟩ := List.mem_map.mp made
      apply unbroken_intercalate
      intro cell hc
      obtain ⟨value, held, rfl⟩ := List.mem_map.mp hc
      apply unbroken_valueText
      rintro bytes rfl
      exact flat.texts row inside bytes (List.mem_of_mem_take held)

theorem intercalate_eq_empty_iff (cells : List String) :
    String.intercalate ";" cells = "" ↔ cells.length ≤ 1 ∧ ∀ cell ∈ cells, cell = "" := by
  cases cells with
  | nil => simp
  | cons first rest =>
    cases rest with
    | nil => simp
    | cons second more =>
      refine iff_of_false ?_ (by simp)
      intro nothing
      have nothing := congrArg String.toList nothing
      rw [String.toList_intercalate, ← joined_eq_intercalate] at nothing
      simp [joined] at nothing

/-- All lines are shown unless the last row is empty. -/
theorem kept_iff (columns : List String) {rows : List (List String)} {last : List String}
    (h : rows.getLast? = some last) :
    dropEndWhile List.isEmpty ((lines columns rows).map String.toList) =
        (lines columns rows).map String.toList ↔
      ¬ (last.length ≤ 1 ∧ ∀ cell ∈ last, cell = "") := by
  have filled : rows ≠ [] := by
    rintro rfl
    cases h
  have ends : ((lines columns rows).map String.toList).getLast? =
      some (String.intercalate ";" last).toList := by
    rw [lines, if_neg filled]
    simp [List.getLast?_cons, h]
  rw [dropEndWhile_isEmpty_eq_self_iff, ends, ← intercalate_eq_empty_iff, Ne, Option.some.injEq,
    String.toList_eq_nil_iff]

theorem kept_of_no_rows (columns : List String) :
    dropEndWhile List.isEmpty ((lines columns []).map String.toList) =
      (lines columns []).map String.toList := by
  rw [dropEndWhile_isEmpty_eq_self_iff]
  simp [lines]

theorem lines_of_answered {action : Action} {w : World} {text : String}
    (h : answered action w = .ok text) :
    ∃ result rows, found (databasePath action.connection) action.query w = .ok result ∧
      Full result.columns.length result.rows rows ∧
      text = String.intercalate "\n" (lines result.columns
        (rows.map (texts result.columns))) := by
  obtain ⟨result, given, h⟩ := bind_eq_ok h
  obtain ⟨read, made, h⟩ := bind_eq_ok h
  rcases full_or_broken result.columns.length result.rows with ⟨rows, full⟩ | ⟨text, broken⟩
  · rw [readRows_of_full full] at made
    cases made
    cases h
    exact ⟨result, rows, given, full, by rw [table_eq]⟩
  · rw [readRows_of_broken broken] at made
    cases made

theorem answered_of_failed {query connection text : String} {w : World}
    (h : found (databasePath connection) query w = .error text ∨ ∃ result,
      found (databasePath connection) query w = .ok result ∧
        Broken result.columns.length result.rows text) :
    answered ⟨query, connection⟩ w = .error text := by
  unfold answered
  rcases h with none | ⟨result, given, broken⟩
  · rw [none]
    rfl
  · simp only [given, bind, Except.bind, readRows_of_broken broken]

theorem texts_length {columns : List String} {source : List (Except String (List SqlValue))}
    {rows : List (List SqlValue)} (full : Full columns.length source rows) :
    ∀ row ∈ rows.map (texts columns), row.length = columns.length := by
  intro cells made
  obtain ⟨row, inside, rfl⟩ := List.mem_map.mp made
  simp [texts, full.2 row inside]

/-- The rows of a query that succeeds stand between the markers, without the empty ones at the
end; a query that fails at any row shows none of them. -/
theorem table_shown (limit : Span) (clock : Clock) (request : Inbound) (body : String)
    (world : World) {j : Nat} {s : Step} {command : Script.Command}
    (there : ((⟨builtin, limit⟩ : Interpreter World).steps request (Script.lines body) world)[j]? =
      some s)
    (parsed : Script.Command.parse s.line = some command) (sql : command.verb = "SQL") :
    ∃ before, ((⟨builtin, limit⟩ : Interpreter World).starts request (Script.lines body) world)[j]? =
        some before ∧
      ((⟨builtin, limit⟩ : Interpreter World).runLines clock request (Script.lines body)
        world).transcript.blocks[j]? = some (s.block (clock j)) ∧
      (∀ rest, pieces '\n' ((s.block (clock j)).toList ++ rest) =
        s.rows (clock j) ++ pieces '\n' rest) ∧
      (∀ text, s.outcome = .success text →
        ∃ (action : Action) (more : List String) (result : SqlResult) (rows : List (List SqlValue)),
        command.args = action.query :: action.connection :: more ∧
        found (databasePath action.connection) action.query before = .ok result ∧
        Full result.columns.length result.rows rows ∧
        (Flat result.columns rows →
          let cells := rows.map (texts result.columns)
          let all := (lines result.columns cells).map String.toList
          (∀ row ∈ cells, row.length = result.columns.length) ∧
            s.printed = dropEndWhile List.isEmpty all ∧ (rows = [] → s.printed = all) ∧
            ∀ last, cells.getLast? = some last →
              (s.printed = all ↔ ¬ (last.length ≤ 1 ∧ ∀ cell ∈ last, cell = "")))) ∧
      ∀ query connection more text, command.args = query :: connection :: more →
        (found (databasePath connection) query before = .error text ∨ ∃ result,
          found (databasePath connection) query before = .ok result ∧
            Broken result.columns.length result.rows text) →
        s.outcome = .failure ("SQL error: " ++ text) := by
  obtain ⟨before, began, inside, outcome⟩ := Interpreter.step_eq _ there
  have unbroken := Script.newline_not_mem
    (Script.isLine_of_mem_lines (List.mem_of_getElem? inside))
  rw [Interpreter.executeLine_builtin limit parsed (v := .sql) sql] at outcome
  dsimp only at outcome
  refine ⟨before, began, Interpreter.runLines_block _ clock request _ world there,
    Step.pieces_block unbroken (clock j), ?_, ?_⟩
  · intro text success
    cases read : Sql.read command.args with
    | error e =>
      have misused (context : Context) :
          ((builtinHandler .sql).execute command.args context before).1 = .failed (.usage e) := by
        show (probe.execute command.args context before).1 = _
        rw [phases.execute_of_read_error read]
      rw [outcome, misused] at success
      cases success
    | ok action =>
      rw [outcome, execute_of_read read] at success
      obtain ⟨more, args⟩ := read_eq_ok_iff.mp read
      cases made : answered action before with
      | error e =>
        rw [made] at success
        cases success
      | ok shown =>
        obtain ⟨result, rows, given, full, rfl⟩ := lines_of_answered made
        refine ⟨action, more, result, rows, args, given, full, fun flat => ?_⟩
        intro cells all
        have printed : s.printed = dropEndWhile List.isEmpty all := by
          apply Step.printed_of_lines
          · rw [outcome, execute_of_read read, made]
            rfl
          · exact unbroken_lines flat
        refine ⟨texts_length full, printed, ?_, ?_⟩
        · rintro rfl
          rw [printed]
          exact kept_of_no_rows result.columns
        · intro last ends
          rw [printed]
          exact kept_iff result.columns ends
  · intro query connection more text args failed
    have read : Sql.read command.args = .ok ⟨query, connection⟩ := read_eq_ok_iff.mpr ⟨more, args⟩
    rw [outcome, execute_of_read read, answered_of_failed failed]
    rfl

/-- A last row without text is not shown, here the second of two. -/
theorem table_shown_of_null :
    let world : World := { World.still with answers :=
      [⟨"a.db", "SELECT note", .ok ⟨["note"], [.ok [.text [0x78]], .ok [.null]]⟩⟩] }
    ∃ s, ((⟨builtin, .ofSeconds 10⟩ : Interpreter World).steps .empty
        (Script.lines "SQL \"SELECT note\" a.db") world)[0]? = some s ∧
      (∃ text, s.outcome = .success text) ∧ s.printed = ["note".toList, "x".toList] := by
  intro world
  have there : ((⟨builtin, .ofSeconds 10⟩ : Interpreter World).steps .empty
      (Script.lines "SQL \"SELECT note\" a.db") world)[0]? =
      some ⟨"SQL \"SELECT note\" a.db", .success "note\nx\n"⟩ := by rfl
  have parsed : Script.Command.parse "SQL \"SELECT note\" a.db" =
      some ⟨"SQL", ["SELECT note", "a.db"]⟩ := by rfl
  obtain ⟨before, began, -, -, shown, -⟩ :=
    table_shown (.ofSeconds 10) (fun _ => 0) .empty _ world there parsed rfl
  cases began
  obtain ⟨⟨query, connection⟩, more, result, rows, args, given, ⟨held, -⟩, all⟩ := shown _ rfl
  cases args
  have answer : found (databasePath "a.db") "SELECT note" world =
      .ok ⟨["note"], [.ok [.text [0x78]], .ok [.null]]⟩ := by rfl
  rw [answer] at given
  cases given
  obtain rfl : [[.text [0x78]], [.null]] = rows :=
    List.map_injective_iff.mpr (fun _ _ => Except.ok.inj) held
  have flat : Flat ["note"] [[.text [0x78]], [.null]] := by
    refine ⟨by simp [Unbroken, isLineBreak], ?_⟩
    intro row inside bytes text
    simp only [List.mem_cons, List.not_mem_nil, or_false] at inside
    rcases inside with rfl | rfl
    · cases List.mem_singleton.mp text
      have written : Utf8.textLossy [0x78] = "x" := by rfl
      simp [written, Unbroken, isLineBreak]
    · cases List.mem_singleton.mp text
  refine ⟨_, there, ⟨_, rfl⟩, (all flat).2.1.trans ?_⟩
  have cells : [[SqlValue.text [0x78]], [.null]].map (texts ["note"]) = [["x"], [""]] := by rfl
  rw [cells]
  decide

end HopProbe.Verbs.Sql
