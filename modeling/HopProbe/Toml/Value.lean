/-!
# Values of TOML

A document is a table, and so are many of the values in it. Where a table
came from decides what may still be added to it: a table named in a header is
complete with its own lines, one that dotted keys made takes more dotted keys,
one that headers only passed through may still get a header of its own, and
one in braces is closed. Dotted keys end in tables that they made themselves.
-/

set_option autoImplicit false

namespace HopProbe.Toml

inductive Origin where
  | header
  | passed
  | dotted
  | braces
  deriving DecidableEq, Repr

inductive Value where
  | string (text : String)
  | integer (n : Int)
  | real (text : String)
  | boolean (b : Bool)
  | moment (text : String)
  | array (items : List Value)
  | table (origin : Origin) (entries : List (String × Value))
  /-- Tables under one repeated header. The last one is still open. -/
  | tables (earlier : List (List (String × Value))) (last : List (String × Value))

abbrev Table := List (String × Value)

namespace Table

def get? (t : Table) (name : String) : Option Value :=
  (t.find? fun (key, _) => key == name).map Prod.snd

def replace (t : Table) (name : String) (value : Value) : Table :=
  t.map fun (key, old) => (key, if key = name then value else old)

def add (t : Table) (name : String) (value : Value) : Table := t ++ [(name, value)]

end Table

structure Key where
  path : List String
  name : String
  deriving DecidableEq, Repr

/-- How tables are reached: by dotted keys, or by a header. -/
inductive Route where
  | dotted
  | header
  deriving DecidableEq, Repr

/-- What becomes of a table that is not there yet. -/
def Route.origin : Route → Origin
  | .dotted => .dotted
  | .header => .passed

def Route.passes : Route → Origin → Bool
  | _, .braces => false
  | .dotted, .header => false
  | _, _ => true

def maxKey : Nat := 80

namespace Table

/-- Changes the table at the end of a path. Through tables under a repeated
header the path leads to the last of them. -/
def reach (route : Route) (change : Origin → Table → Option Table) :
    List String → Origin → Table → Option Table
  | [], origin, t => change origin t
  | name :: path, _, t =>
    match t.get? name with
    | none =>
      (reach route change path route.origin []).map fun inner =>
        t.add name (.table route.origin inner)
    | some (.table origin inner) =>
      if route.passes origin then
        (reach route change path origin inner).map fun inner => t.replace name (.table origin inner)
      else none
    | some (.tables earlier last) =>
      (reach route change path .header last).map fun last => t.replace name (.tables earlier last)
    | some _ => none

def follow (route : Route) (key : Key) (change : Origin → Table → Option Table) (t : Table) :
    Option Table :=
  if key.path.length < maxKey then t.reach route change key.path .header else none

def addNew (name : String) (value : Value) (t : Table) : Option Table :=
  match t.get? name with
  | none => some (t.add name value)
  | some _ => none

def assign (key : Key) (value : Value) (t : Table) : Option Table :=
  t.follow .dotted key fun origin t =>
    if key.path = [] ∨ origin = .dotted then t.addNew key.name value else none

def openTable (key : Key) (t : Table) : Option Table :=
  t.follow .header key fun _ t =>
    match t.get? key.name with
    | none => some (t.add key.name (.table .header []))
    | some (.table .passed inner) => some (t.replace key.name (.table .header inner))
    | some _ => none

def openElement (key : Key) (t : Table) : Option Table :=
  t.follow .header key fun _ t =>
    match t.get? key.name with
    | none => some (t.add key.name (.tables [] []))
    | some (.tables earlier last) => some (t.replace key.name (.tables (earlier ++ [last]) []))
    | some _ => none

end Table

def Table.ofAssignments? (assignments : List (Key × Value)) : Option Table :=
  assignments.foldlM (fun t (key, value) => t.assign key value) []

end HopProbe.Toml
