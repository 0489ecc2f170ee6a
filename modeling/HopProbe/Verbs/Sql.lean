import HopProbe.Text.Base64
import HopProbe.Text.Cut
import HopProbe.Text.Real
import HopProbe.World.Effect

/-!
# SQL

Runs a query and shows its columns and rows, one line each, with semicolons.
-/

set_option autoImplicit false

namespace HopProbe.Verbs.Sql
open HopProbe.Text

structure Action where
  query : String
  connection : String
  deriving DecidableEq, Repr

def read (args : List String) : Except UsageError Action := do
  let query ← argument .sql args 0 "query"
  return ⟨query, ← argument .sql args 1 "connection"⟩

def databasePath (connection : String) : String :=
  match stripStart "sqlite://".toList connection.toList with
  | some path => String.ofList path
  | none =>
    match stripStart "sqlite:".toList connection.toList with
    | some path => String.ofList path
    | none => connection

def valueText : SqlValue → String
  | .null => ""
  | .integer n => toString n
  | .real bits => Real.text bits
  | .text bytes => Utf8.textLossy bytes
  | .blob bytes => Base64.text bytes

def line (cells : List String) : String := String.intercalate ";" cells

def noRows : String := "No rows found."

def table (columns : List String) (rows : List (List SqlValue)) : List String :=
  line columns ::
    if rows.isEmpty then [noRows] else rows.map fun row => line (row.map valueText)

def noColumn (i : Nat) : String := "Invalid column index: " ++ toString i

def cells (width : Nat) (row : List SqlValue) : Except String (List SqlValue) :=
  (List.range width).mapM fun i =>
    match row[i]? with
    | some value => .ok value
    | none => .error (noColumn i)

/-- Reads rows up to their end or to the first that cannot be read. -/
def readRows (width : Nat) :
    List (Except String (List SqlValue)) → Except String (List (List SqlValue))
  | [] => .ok []
  | next :: rest => do
    let row ← cells width (← next)
    return row :: (← readRows width rest)

def takeAnswer (path query : String) : List SqlAnswer → Option (SqlAnswer × List SqlAnswer)
  | [] => none
  | a :: rest =>
    if a.path = path ∧ a.query = query then some (a, rest)
    else (takeAnswer path query rest).map fun (found, rest) => (found, a :: rest)

/-- What is left of a query behind white space, semicolons and comments. -/
def statement (fuel : Nat) (query : List Char) : List Char :=
  match fuel, query with
  | 0, cs => cs
  | _, [] => []
  | fuel + 1, '-' :: '-' :: rest => statement fuel (rest.dropWhile (· ≠ '\n'))
  | fuel + 1, '/' :: '*' :: rest => statement fuel (behindComment rest)
  | fuel + 1, c :: rest =>
    if [' ', '\t', '\n', '\r', '\x0c', ';'].contains c then statement fuel rest else c :: rest
where
  behindComment : List Char → List Char
    | [] => []
    | '*' :: '/' :: rest => rest
    | _ :: rest => behindComment rest

def isVacant (query : String) : Bool := (statement query.length query.toList).isEmpty

def misuse : String := "bad parameter or other API misuse"

def unavailable : String := "unable to open database file"

def ask (path query : String) : Effect SqlResult := do
  Effect.record (.query path query)
  match takeAnswer path query (← get).answers with
  | none => Effect.fault (.sql (unavailable ++ ": " ++ path))
  | some (answer, answers) =>
    modify fun w => { w with answers }
    let result ← Effect.ofExcept Fault.sql answer.result
    if isVacant query then Effect.fault (.sql misuse) else return result

def perform (action : Action) (_ : Context) : Effect String := do
  let result ← ask (databasePath action.connection) action.query
  let rows ← Effect.ofExcept Fault.sql (readRows result.columns.length result.rows)
  return String.intercalate "\n" (table result.columns rows)

def probe : Probe where
  verb := .sql
  usage := "\"<query>\" <database path | sqlite://path | :memory:>"
  forwards := Probe.never
  run := fun args context => do perform (← Effect.check (read args)) context

end HopProbe.Verbs.Sql
