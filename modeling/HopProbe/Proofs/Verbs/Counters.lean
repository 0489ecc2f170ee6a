import HopProbe.Proofs.Text.Edges
import HopProbe.Proofs.Text.Keyed
import HopProbe.Proofs.Text.Natural
import HopProbe.Proofs.Text.Spelling
import HopProbe.Verbs.Counters
import Mathlib.Data.List.Forall2

/-!
# Reading a table of counters

A table is read back row by row, however its columns are spaced and whatever
other lines stand between its rows, so long as none of these could be a row.
-/

set_option autoImplicit false

namespace HopProbe.Verbs.Counters
open HopProbe.Text

structure Row where
  name : String
  columns : List Nat
  plain : ∀ c ∈ name.toList, c ≠ ':' ∧ isBlank c = false
  enough : 16 ≤ columns.length
  bounded : ∀ n ∈ columns, n < twoTo 64

/-- The first four columns are of what was received, the ninth to the twelfth of what was sent. -/
def Row.counters (r : Row) : Counters :=
  have enough := r.enough
  ⟨⟨r.columns[0], r.columns[1], r.columns[2], r.columns[3]⟩,
    ⟨r.columns[8], r.columns[9], r.columns[10], r.columns[11]⟩⟩

inductive Row.Written (r : Row) : List Char → Prop
  | line {gap rest : List Char} {ws : List (List Char)} (blank : ∀ c ∈ gap, isBlank c = true)
    (spaced : Spaced ws rest) (numbers : List.Forall₂ Numeral ws r.columns) :
    r.Written (gap ++ r.name.toList ++ ':' :: rest)

/-- A line that can be no row: it has no colon, or fewer than sixteen numbers behind the first. -/
inductive Idle : List Char → Prop
  | bare {line : List Char} (h : ':' ∉ line) : Idle line
  | short {front rest : List Char} {ws : List (List Char)} (first : ':' ∉ front)
    (spaced : Spaced ws rest)
    (few : ∀ numbers : List (List Char), numbers.Sublist ws →
      (∀ w ∈ numbers, ∃ n < twoTo 64, Numeral w n) → numbers.length < 16) :
    Idle (front ++ ':' :: rest)

inductive Lists : List Row → List (List Char) → Prop
  | none : Lists [] []
  | row {r : Row} {rows : List Row} {line : List Char} {lines : List (List Char)}
    (written : r.Written line) (behind : Lists rows lines) : Lists (r :: rows) (line :: lines)
  | idle {rows : List Row} {line : List Char} {lines : List (List Char)} (h : Idle line)
    (behind : Lists rows lines) : Lists rows (line :: lines)

inductive Shows (rows : List Row) : String → Prop
  | text {first second : List Char} {lines : List (List Char)}
    (unbroken : ∀ line ∈ first :: second :: lines, '\n' ∉ line) (lists : Lists rows lines) :
    Shows rows (String.ofList (joined ['\n'] (first :: second :: lines)))

theorem column?_eq_some_iff {cs : List Char} {n : Nat} :
    column? cs = some n ↔ Numeral cs n ∧ n < twoTo 64 := by
  rw [← readNatural_eq_ok_iff (by decide), column?]
  cases readNatural (twoTo 64) cs with
  | ok m => exact ⟨fun h => congrArg _ (Option.some.inj h), fun h => congrArg _ (Except.ok.inj h)⟩
  | error fault => exact iff_of_false nofun nofun

theorem columns_of_numbers {ws : List (List Char)} {ns : List Nat}
    (numbers : List.Forall₂ Numeral ws ns) (bounded : ∀ n ∈ ns, n < twoTo 64) :
    ws.filterMap column? = ns := by
  induction numbers with
  | nil => rfl
  | @cons w n ws ns number _ ih =>
    rw [List.filterMap_cons, column?_eq_some_iff.mpr ⟨number, bounded n (by simp)⟩,
      ih fun m hm => bounded m (by simp [hm])]

theorem ofColumns?_of_enough (r : Row) : ofColumns? r.columns = some r.counters := by
  obtain ⟨name, ns, plain, enough, bounded⟩ := r
  have whole : ns = ns[0] :: ns[1] :: ns[2] :: ns[3] :: ns[4] :: ns[5] :: ns[6] :: ns[7] ::
      ns[8] :: ns[9] :: ns[10] :: ns[11] :: ns[12] :: ns[13] :: ns[14] :: ns[15] :: ns.drop 16 := by
    simp only [List.getElem_cons_drop, List.drop_zero]
  exact congrArg ofColumns? whole

theorem ofColumns?_of_few {ns : List Nat} (few : ns.length < 16) : ofColumns? ns = none := by
  fun_cases ofColumns? ns with
  | case1 => simp at few; omega
  | case2 => rfl

theorem ofLine?_of_written {r : Row} {line : List Char} (h : r.Written line) :
    ofLine? line = some (r.name, r.counters) := by
  obtain @⟨gap, rest, ws, blank, spaced, numbers⟩ := h
  have noColon : ':' ∉ gap ++ r.name.toList := by
    intro inside
    rcases List.mem_append.mp inside with inside | inside
    · exact absurd (blank _ inside) (by decide)
    · exact (r.plain _ inside).1 rfl
  have named : trimmed (gap ++ r.name.toList) = r.name.toList :=
    strip_around ⟨gap, [], by simp, blank, by simp⟩ (edged_of_forall fun c hc => (r.plain c hc).2)
  have counted : columns rest = r.columns := by
    rw [columns, words_of_spaced spaced, columns_of_numbers numbers r.bounded]
  rw [ofLine?, cutFirst_append noColon]
  simp only [Option.bind_eq_bind, Option.bind_some, counted, ofColumns?_of_enough, named,
    String.ofList_toList, Option.pure_def]

theorem ofLine?_of_idle {line : List Char} (h : Idle line) : ofLine? line = none := by
  cases h with
  | bare clear => simp [ofLine?, cutFirst_of_not_mem clear]
  | @short front rest ws first spaced few =>
    have fewer : (columns rest).length < 16 := by
      rw [columns, words_of_spaced spaced, List.length_filterMap_eq_countP, List.countP_eq_length_filter]
      refine few _ List.filter_sublist fun w hw => ?_
      obtain ⟨n, read⟩ := Option.isSome_iff_exists.mp (List.mem_filter.mp hw).2
      obtain ⟨number, bounded⟩ := column?_eq_some_iff.mp read
      exact ⟨n, bounded, number⟩
    rw [ofLine?, cutFirst_append first]
    simp only [Option.bind_eq_bind, Option.bind_some, ofColumns?_of_few fewer, Option.bind_none]

theorem filterMap_ofLine? {rows : List Row} {lines : List (List Char)} (h : Lists rows lines) :
    lines.filterMap ofLine? = rows.map fun r => (r.name, r.counters) := by
  induction h with
  | none => rfl
  | row written _ ih => rw [List.filterMap_cons, ofLine?_of_written written, ih, List.map_cons]
  | idle h _ ih => rw [List.filterMap_cons, ofLine?_of_idle h, ih]

theorem ofTable_of_shows {rows : List Row} {text : String} (h : Shows rows text) :
    ofTable text = rows.map fun r => (r.name, r.counters) := by
  obtain ⟨unbroken, lists⟩ := h
  rw [ofTable, String.toList_ofList, pieces_joined (by simp) unbroken, List.drop_succ_cons,
    List.drop_succ_cons, List.drop_zero, filterMap_ofLine? lists]

theorem find?_eq_some_iff {table : List (String × Counters)} {name : String} {c : Counters} :
    find? table name = some c ↔ LastOf Prod.fst name table (name, c) := by
  rw [← find?_reverse_eq_some_iff_lastOf, find?, Option.map_eq_some_iff]
  constructor
  · rintro ⟨⟨n, d⟩, found, rfl⟩
    have same : n = name := by simpa using List.find?_some found
    rw [← same] at found ⊢
    exact found
  · exact fun found => ⟨_, found, rfl⟩

/-- A table is read as the rows that it was written from, in whichever order they stand: each of
their names has the counters of its row, and there is no other name. -/
theorem table_read {table rows : List Row} {text : String} (order : rows.Perm table)
    (distinct : (table.map Row.name).Nodup) (shows : Shows rows text) :
    (ofTable text).Perm (table.map fun r => (r.name, r.counters)) ∧
      ∀ name c, find? (ofTable text) name = some c ↔
        ∃ r ∈ table, r.name = name ∧ r.counters = c := by
  have read := ofTable_of_shows shows
  have once : ((ofTable text).map Prod.fst).Nodup := by
    rw [read, List.map_map]
    exact (order.map Row.name).nodup_iff.mpr distinct
  refine ⟨read ▸ order.map _, fun name c => ?_⟩
  rw [find?_eq_some_iff, lastOf_iff_mem once, read, List.mem_map]
  simp only [order.mem_iff, Prod.mk.injEq, and_true]

theorem table_read_between_idle_lines :
    let lo : Row := ⟨"lo", [18446744073709551615, 1, 2, 3, 4, 5, 6, 7, 8, 9, 10, 11, 12, 13, 14, 15],
      forall_of_all (by decide), by decide, by decide⟩
    let eth : Row := ⟨"eth0", [0, 0, 7, 0, 0, 0, 0, 0, 9, 0, 0, 8, 0, 0, 0, 0, 5],
      forall_of_all (by decide), by decide, by decide⟩
    let text := "a:\nb\n  lo:18446744073709551615 1 2 3 4 5 6 7 8 9 10 11 12 13 14 15\nup\nup: 1 x\n" ++
      "eth0:\t0 0  7 0 0 0 0 0 9 0 0 8 0 0 0 0 5\r\n"
    Shows [lo, eth] text ∧
      (ofTable text).Perm [("eth0", ⟨⟨0, 0, 7, 0⟩, ⟨9, 0, 0, 8⟩⟩),
        ("lo", ⟨⟨18446744073709551615, 1, 2, 3⟩, ⟨8, 9, 10, 11⟩⟩)] := by
  intro lo eth text
  have numbers (r : Row) (cs : List Char) (same : words cs = r.columns.map (Nat.toDigits 10)) :
      Spaced (r.columns.map (Nat.toDigits 10)) cs ∧
        List.Forall₂ Numeral (r.columns.map (Nat.toDigits 10)) r.columns :=
    ⟨same ▸ spaced_words cs,
      List.forall₂_map_left_iff.mpr (List.forall₂_same.mpr fun n _ => numeral_toDigits n)⟩
  have first := numbers lo "18446744073709551615 1 2 3 4 5 6 7 8 9 10 11 12 13 14 15".toList
    (by decide +kernel)
  have second := numbers eth "\t0 0  7 0 0 0 0 0 9 0 0 8 0 0 0 0 5\r".toList
    (by decide +kernel)
  have shows : Shows [lo, eth] text := by
    have whole : text = String.ofList (joined ['\n'] ["a:".toList, ['b'],
        [' ', ' '] ++ lo.name.toList ++
          ':' :: "18446744073709551615 1 2 3 4 5 6 7 8 9 10 11 12 13 14 15".toList,
        ['u', 'p'], ['u', 'p'] ++ ':' :: " 1 x".toList,
        [] ++ eth.name.toList ++ ':' :: "\t0 0  7 0 0 0 0 0 9 0 0 8 0 0 0 0 5\r".toList, []]) := by
      decide +kernel
    rw [whole]
    exact .text (by decide +kernel) <| .row (.line (forall_of_all (by decide)) first.1 first.2) <|
      .idle (.bare (by decide)) <| .idle (.short (by decide) (spaced_words _)
        fun ns part _ => Nat.lt_of_le_of_lt part.length_le (by decide +kernel)) <|
      .row (.line (by simp) second.1 second.2) <| .idle (.bare (by decide)) .none
  have order : [lo, eth].Perm [eth, lo] := List.Perm.swap _ _ _
  exact ⟨shows, (table_read order (by decide) shows).1⟩

end HopProbe.Verbs.Counters
