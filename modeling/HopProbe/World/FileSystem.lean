import HopProbe.Text.Cut
import HopProbe.Text.Utf8
import HopProbe.World.IoError

/-!
# File systems

A file system is a list of nodes, each at the path of names that leads to it
from the root. A path text is walked name by name; a link in the way is
replaced by its target, forty times at most. A slash at the end of a path
demands a directory.
-/

set_option autoImplicit false

namespace HopProbe
open HopProbe.Text

abbrev FileName := List UInt8

inductive Node where
  | file (content : List UInt8)
  | directory
  | link (target : List UInt8)
  deriving DecidableEq, Repr

def Node.at? (nodes : List (List FileName × Node)) (path : List FileName) : Option Node :=
  if path = [] then some .directory
  else (nodes.find? fun (p, _) => p == path).map Prod.snd

structure FileSystem where
  nodes : List (List FileName × Node)
  /-- Where relative paths start. -/
  current : List FileName
  /-- When the files were written, in seconds since the beginning of 1970, if that is known. -/
  written : Option Nat
  distinct : (nodes.map Prod.fst).Nodup
  rootless : [] ∉ nodes.map Prod.fst
  /-- Whatever there is is in a directory. -/
  inside : ∀ path ∈ nodes.map Prod.fst, Node.at? nodes path.dropLast = some .directory
  home : Node.at? nodes current = some .directory

namespace FileSystem

def slash : UInt8 := 0x2F

def dot : FileName := [0x2E]

def dotDot : FileName := [0x2E, 0x2E]

def node? (fs : FileSystem) (path : List FileName) : Option Node := Node.at? fs.nodes path

/-- A place for a node: in a directory, and not a directory itself. -/
structure Open (fs : FileSystem) (path : List FileName) : Prop where
  below : path ≠ []
  inside : fs.node? path.dropLast = some .directory
  bare : fs.node? path ≠ some .directory

instance (fs : FileSystem) (path : List FileName) : Decidable (fs.Open path) :=
  decidable_of_iff (path ≠ [] ∧ fs.node? path.dropLast = some .directory ∧
    fs.node? path ≠ some .directory) ⟨fun ⟨a, b, c⟩ => ⟨a, b, c⟩, fun h => ⟨h.1, h.2, h.3⟩⟩

/-- The nodes when one is put at a path: there it takes the place of another, or stands at the end. -/
def changed (fs : FileSystem) (path : List FileName) (node : Node) : List (List FileName × Node) :=
  fs.nodes.filter (fun (p, _) => p != path) ++ [(path, node)]

theorem at?_changed (fs : FileSystem) {path : List FileName} (below : path ≠ []) (node : Node)
    (other : List FileName) :
    Node.at? (fs.changed path node) other = if other = path then some node else fs.node? other := by
  unfold node? Node.at? changed
  by_cases root : other = []
  · subst root
    rw [if_pos rfl, if_neg (Ne.symm below), if_pos rfl]
  · rw [if_neg root, if_neg root, List.find?_append, List.find?_filter]
    by_cases same : other = path
    · subst same
      have none : fs.nodes.find? (fun v => decide ((v.1 != other) = true ∧ (v.1 == other) = true)) =
          none := by
        simp only [List.find?_eq_none]
        intro v _ both
        simp at both
      rw [if_pos rfl, none]
      simp
    · have apart : (path == other) = false := by simpa using Ne.symm same
      have kept : (fun v : List FileName × Node =>
          decide ((v.1 != path) = true ∧ (v.1 == other) = true)) = fun v => v.1 == other := by
        funext v
        by_cases there : v.1 = other
        · simp [there, same]
        · simp [there]
      rw [if_neg same, kept]
      simp [apart]

theorem mem_changed (fs : FileSystem) (path : List FileName) (node : Node)
    (other : List FileName) : other ∈ (fs.changed path node).map Prod.fst ↔
      (other ∈ fs.nodes.map Prod.fst ∧ other ≠ path) ∨ other = path := by
  simp only [changed, List.map_append, List.map_cons, List.map_nil, List.mem_append,
    List.mem_singleton, List.mem_map, List.mem_filter, bne_iff_ne]
  constructor
  · rintro (⟨v, ⟨there, apart⟩, rfl⟩ | same)
    · exact Or.inl ⟨⟨v, there, rfl⟩, apart⟩
    · exact Or.inr same
  · rintro (⟨⟨v, there, rfl⟩, apart⟩ | same)
    · exact Or.inl ⟨v, ⟨there, apart⟩, rfl⟩
    · exact Or.inr same

def put (fs : FileSystem) {path : List FileName} (node : Node) (h : fs.Open path) :
    FileSystem where
  nodes := fs.changed path node
  current := fs.current
  written := fs.written
  distinct := by
    simp only [changed, List.map_append, List.map_cons, List.map_nil]
    refine List.nodup_append.mpr ⟨(List.filter_sublist.map _).nodup fs.distinct, by simp, ?_⟩
    intro a there b one same
    obtain ⟨v, kept, rfl⟩ := List.mem_map.mp there
    obtain rfl := List.mem_singleton.mp one
    simpa [same] using (List.mem_filter.mp kept).2
  rootless := by
    rw [mem_changed]
    rintro (⟨there, -⟩ | same)
    · exact fs.rootless there
    · exact h.below same.symm
  inside := by
    intro other there
    rw [at?_changed fs h.below]
    rcases (mem_changed ..).mp there with ⟨there, -⟩ | rfl
    · split
      · next same => exact absurd (same ▸ fs.inside other there) h.bare
      · exact fs.inside other there
    · have shorter : other.dropLast ≠ other := by
        intro same
        have fewer := List.length_pos_iff.mpr h.below
        have length := congrArg List.length same
        rw [List.length_dropLast] at length
        omega
      rw [if_neg shorter]
      exact h.inside
  home := by
    rw [at?_changed fs h.below]
    split
    · next same => exact absurd (same ▸ fs.home) h.bare
    · exact fs.home

def offer (fs : FileSystem) (path : List FileName) (node : Node) : FileSystem :=
  if h : fs.Open path then fs.put node h else fs

def names (path : List UInt8) : List FileName := (pieces slash path).filter (! ·.isEmpty)

def isAbsolute (path : List UInt8) : Bool := path.head? == some slash

def hasSlashEnd (path : List UInt8) : Bool := path.getLast? == some slash

/-- The names to walk: a slash at the end asks for a directory, as a dot does. -/
def steps (path : List UInt8) : List FileName :=
  if hasSlashEnd path then names path ++ [dot] else names path

def startOf (fs : FileSystem) (path : List UInt8) : List FileName :=
  if isAbsolute path then [] else fs.current

def maxLinks : Nat := 40

def maxName : Nat := 255

def maxPath : Nat := 4095

/-- Why no way goes on from a place that is not a directory. -/
def barrier (fs : FileSystem) (here : List FileName) : IoError :=
  if (fs.node? here).isSome then .notDirectory else .noEntry

def enter (fs : FileSystem) (here : List FileName) (name : FileName) :
    Except IoError (Option Node) :=
  match fs.node? here with
  | some .directory =>
    if name.length ≤ maxName then .ok (fs.node? (here ++ [name])) else .error .nameTooLong
  | _ => .error (fs.barrier here)

def walk (fs : FileSystem) (links : Nat) (here : List FileName) :
    List FileName → Except IoError (List FileName)
  | [] => .ok here
  | name :: rest =>
    if name = dot ∨ name = dotDot then
      match fs.node? here with
      | some .directory => walk fs links (if name = dot then here else here.dropLast) rest
      | _ => .error (fs.barrier here)
    else match fs.enter here name with
      | .error e => .error e
      | .ok none => .error .noEntry
      | .ok (some (.link target)) =>
        match links with
        | 0 => .error .tooManyLinks
        | links + 1 =>
          walk fs links (if isAbsolute target then [] else here) (steps target ++ rest)
      | .ok (some _) => walk fs links (here ++ [name]) rest
termination_by names => (links, names.length)

/-- Where a file is written: the last name need not exist, but must not be a
directory's. A link in its place is followed in the same way. -/
def place (fs : FileSystem) (links : Nat) (here : List FileName) (slashEnd : Bool) :
    List FileName → Except IoError (List FileName)
  | [] => .error .isDirectory
  | [name] =>
    if slashEnd ∨ name = dot ∨ name = dotDot then
      match fs.node? here with
      | some .directory => .error .isDirectory
      | _ => .error (fs.barrier here)
    else match fs.enter here name with
      | .error e => .error e
      | .ok (some .directory) => .error .isDirectory
      | .ok (some (.link target)) =>
        match links with
        | 0 => .error .tooManyLinks
        | links + 1 =>
          place fs links (if isAbsolute target then [] else here) (hasSlashEnd target) (names target)
      | .ok _ => .ok (here ++ [name])
  | name :: next :: rest =>
    if name = dot ∨ name = dotDot then
      match fs.node? here with
      | some .directory =>
        place fs links (if name = dot then here else here.dropLast) slashEnd (next :: rest)
      | _ => .error (fs.barrier here)
    else match fs.enter here name with
      | .error e => .error e
      | .ok none => .error .noEntry
      | .ok (some (.link target)) =>
        match links with
        | 0 => .error .tooManyLinks
        | links + 1 =>
          place fs links (if isAbsolute target then [] else here) slashEnd
            (names target ++ next :: rest)
      | .ok (some _) => place fs links (here ++ [name]) slashEnd (next :: rest)
termination_by names => (links, names.length)

def nulInPath : IoError := .described "file name contained an unexpected NUL byte"

def checkPath (path : List UInt8) : Except IoError Unit :=
  if path.contains 0 then .error nulInPath
  else if path.isEmpty then .error .noEntry
  else if path.length ≤ maxPath then .ok ()
  else .error .nameTooLong

def locate (fs : FileSystem) (path : List UInt8) : Except IoError (List FileName) := do
  checkPath path
  fs.walk maxLinks (fs.startOf path) (steps path)

def stat (fs : FileSystem) (path : List UInt8) : Except IoError Node := do
  let place ← fs.locate path
  match fs.node? place with
  | some node => .ok node
  | none => .error .noEntry

/-- Whether something is at a path; what hides it from view counts as absence. -/
def contains (fs : FileSystem) (path : List UInt8) : Bool := (fs.stat path).isOk

def contains? (fs : FileSystem) (path : List UInt8) : Except IoError Bool :=
  match fs.stat path with
  | .ok _ => .ok true
  | .error e => if e = .noEntry then .ok false else .error e

def readFile (fs : FileSystem) (path : List UInt8) : Except IoError (List UInt8) := do
  match ← fs.stat path with
  | .file content => .ok content
  | _ => .error .isDirectory

/-- A name in a directory and what is there, a link not followed. -/
structure Entry where
  name : FileName
  node : Node
  deriving DecidableEq, Repr

def nameWithin (directory path : List FileName) : Option FileName :=
  match stripStart directory path with
  | some [name] => some name
  | _ => none

def entriesAt (fs : FileSystem) (directory : List FileName) : List Entry :=
  fs.nodes.filterMap fun (path, node) => (nameWithin directory path).map (⟨·, node⟩)

def readDirectory (fs : FileSystem) (path : List UInt8) : Except IoError (List Entry) := do
  let place ← fs.locate path
  match fs.node? place with
  | some .directory => .ok (fs.entriesAt place)
  | _ => .error .notDirectory

def writeFile (fs : FileSystem) (path content : List UInt8) : Except IoError FileSystem := do
  checkPath path
  let place ← fs.place maxLinks (fs.startOf path) (hasSlashEnd path) (names path)
  .ok (fs.offer place (.file content))

/-- A directory at a path and at each place above it, where there is nothing yet. -/
def makeDirectories (fs : FileSystem) (above : List FileName) : List FileName → FileSystem
  | [] => fs
  | name :: rest =>
    let path := above ++ [name]
    makeDirectories (if (fs.node? path).isSome then fs else fs.offer path .directory) path rest

def bare : FileSystem := ⟨[], [], none, List.nodup_nil, by simp, by simp, rfl⟩

def startingAt (fs : FileSystem) (path : List FileName) : FileSystem :=
  if h : fs.node? path = some .directory then { fs with current := path, home := h } else fs

def empty (current : List FileName) : FileSystem :=
  (bare.makeDirectories [] current).startingAt current

end FileSystem
end HopProbe
