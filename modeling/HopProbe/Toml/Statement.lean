import HopProbe.Toml.Quoted
import HopProbe.Toml.Scalar

/-!
# Statements of TOML

A document is a sequence of lines that assign a value to a key, open a table
or open one more table under a repeated header. What stands in brackets and
braces runs over lines; a comma may follow the last item.
-/

set_option autoImplicit false

namespace HopProbe.Toml

inductive Statement where
  | assign (key : Key) (value : Value)
  | table (key : Key)
  | element (key : Key)

def isBareChar (c : Char) : Bool := c.isAlphanum || c == '_' || c == '-'

def name? (cs : List Char) : Option (String × List Char) :=
  match cs with
  | '"' :: _ | '\'' :: _ => (Quoted.line? cs).map fun (text, rest) => (String.ofList text, rest)
  | _ =>
    let bare := cs.takeWhile isBareChar
    if bare.isEmpty then none else some (String.ofList bare, cs.drop bare.length)

def key? (cs : List Char) : Option (Key × List Char) :=
  match name? cs with
  | none => none
  | some (name, rest) =>
    match skipSpaces rest with
    | '.' :: rest =>
      if (skipSpaces rest).length < cs.length then
        (key? (skipSpaces rest)).map fun (key, rest) => (⟨name :: key.path, key.name⟩, rest)
      else none
    | rest => some (⟨[], name⟩, rest)
termination_by cs.length

def sequence? {α : Type} (item : List Char → Option (α × List Char)) (close : Char)
    (cs : List Char) : Option (List α × List Char) :=
  match skipGap false cs with
  | none | some [] => none
  | some (c :: rest) =>
    if c = close then some ([], rest)
    else match item (c :: rest) with
      | none => none
      | some (a, rest) =>
        match skipGap false rest with
        | none | some [] => none
        | some (d :: rest) =>
          if d = close then some ([a], rest)
          else if d = ',' ∧ rest.length < cs.length then
            (sequence? item close rest).map fun (as, rest) => (a :: as, rest)
          else none
termination_by cs.length

def assignment? (skip : List Char → Option (List Char))
    (value : List Char → Option (Value × List Char)) (cs : List Char) :
    Option ((Key × Value) × List Char) := do
  let (key, rest) ← key? cs
  match ← skip rest with
  | '=' :: rest =>
    let (value, rest) ← value (← skip rest)
    some ((key, value), rest)
  | _ => none

def maxDepth : Nat := 80

/-- A value with room for so many brackets and braces in one another. -/
def value? (room : Nat) (cs : List Char) : Option (Value × List Char) :=
  match room, cs with
  | _, '"' :: _ | _, '\'' :: _ =>
    (Quoted.text? cs).map fun (text, rest) => (.string (String.ofList text), rest)
  | room + 1, '[' :: rest =>
    (sequence? (value? room) ']' rest).map fun (items, rest) => (.array items, rest)
  | room + 1, '\x7b' :: rest => do
    let (assignments, rest) ← sequence? (assignment? (skipGap false) (value? room)) '\x7d' rest
    let table ← Table.ofAssignments? assignments
    some (.table .braces table, rest)
  | _, cs =>
    let token := scalarToken cs
    (Value.ofToken? token).map fun value => (value, cs.drop token.length)

def header? (close : List Char) (cs : List Char) : Option (Key × List Char) := do
  let (key, rest) ← key? (skipSpaces cs)
  let rest ← Text.stripStart close rest
  some (key, rest)

def Statement.read? (cs : List Char) : Option (Statement × List Char) :=
  match cs with
  | '[' :: '[' :: rest => (header? [']', ']'] rest).map fun (key, rest) => (.element key, rest)
  | '[' :: rest => (header? [']'] rest).map fun (key, rest) => (.table key, rest)
  | _ => (assignment? (some ∘ skipSpaces) (value? maxDepth) cs).map fun ((key, value), rest) =>
      (.assign key value, rest)

def statements? (cs : List Char) : Option (List Statement) :=
  if cs = [] then some []
  else match lineEnd? cs with
    | some rest => if rest.length < cs.length then statements? rest else none
    | none =>
      match Statement.read? (skipSpaces cs) with
      | none => none
      | some (statement, rest) =>
        match lineEnd? rest with
        | none => none
        | some rest =>
          if rest.length < cs.length then (statements? rest).map (statement :: ·) else none
termination_by cs.length

end HopProbe.Toml
