import HopProbe.Toml.Document

/-!
# Statements side by side

A statement changes what is at one name of the whole table, and what it makes
of that depends on nothing else. So statements about other names can stand
between those about some.
-/

set_option autoImplicit false

namespace HopProbe.Toml

namespace Table

def touch (name : String) (change : Option Value → Option Value) (t : Table) : Option Table :=
  match t.get? name with
  | none => (change none).map (t.add name)
  | some value => (change (some value)).map (t.replace name)

theorem get?_cons (name : String) (value : Value) (t : Table) (other : String) :
    get? ((name, value) :: t) other = if name = other then some value else t.get? other := by
  by_cases same : name = other
  · rw [if_pos same, get?, List.find?_cons_of_pos (by simpa using same)]
    rfl
  · rw [if_neg same, get?, List.find?_cons_of_neg (by simpa using same)]
    rfl

theorem get?_add {t : Table} {name : String} (fresh : t.get? name = none) (value : Value)
    (other : String) :
    (t.add name value).get? other = if other = name then some value else t.get? other := by
  induction t with
  | nil =>
    rw [add, List.nil_append, get?_cons]
    simp only [eq_comm]
  | cons entry t ih =>
    obtain ⟨key, old⟩ := entry
    rw [get?_cons] at fresh
    split at fresh
    · cases fresh
    · next different =>
      rw [add, List.cons_append, get?_cons, get?_cons, ← add, ih fresh]
      split
      · next same => rw [if_neg (same ▸ different)]
      · rfl

theorem replace_cons (key : String) (old : Value) (t : Table) (name : String) (value : Value) :
    replace ((key, old) :: t) name value =
      (key, if key = name then value else old) :: replace t name value := rfl

theorem get?_replace_self {t : Table} {name : String} (there : (t.get? name).isSome)
    (value : Value) : (replace t name value).get? name = some value := by
  induction t with
  | nil => cases there
  | cons entry t ih =>
    obtain ⟨key, old⟩ := entry
    rw [get?_cons] at there
    rw [replace_cons, get?_cons]
    split
    · rfl
    · next different => exact ih (by rwa [if_neg different] at there)

theorem get?_replace_of_ne {name other : String} (h : other ≠ name) (t : Table) (value : Value) :
    (replace t name value).get? other = t.get? other := by
  induction t with
  | nil => rfl
  | cons entry t ih =>
    obtain ⟨key, old⟩ := entry
    rw [replace_cons, get?_cons, get?_cons, ih]
    split
    · next same => rw [if_neg (same ▸ h)]
    · rfl

theorem get?_replace {t : Table} {name : String} (there : (t.get? name).isSome) (value : Value)
    (other : String) :
    (replace t name value).get? other = if other = name then some value else t.get? other := by
  split
  · next same =>
    subst same
    exact get?_replace_self there value
  · next different => exact get?_replace_of_ne different t value

theorem get?_touch {t t' : Table} {name : String} {change : Option Value → Option Value}
    (h : t.touch name change = some t') (other : String) :
    t'.get? other = if other = name then change (t.get? name) else t.get? other := by
  rw [touch] at h
  split at h
  · next fresh =>
    obtain ⟨value, made, rfl⟩ := Option.map_eq_some_iff.mp h
    rw [get?_add fresh, fresh, made]
  · next old there =>
    obtain ⟨value, made, rfl⟩ := Option.map_eq_some_iff.mp h
    rw [get?_replace (by rw [there]; rfl), there, made]

theorem touch_isSome (t : Table) (name : String) (change : Option Value → Option Value) :
    (t.touch name change).isSome = (change (t.get? name)).isSome := by
  rw [touch]
  split
  · next fresh => rw [fresh, Option.isSome_map]
  · next there => rw [there, Option.isSome_map]

def through (route : Route) (change : Origin → Table → Option Table) (path : List String) :
    Option Value → Option Value
  | none => (reach route change path route.origin []).map (.table route.origin)
  | some (.table origin inner) =>
    if route.passes origin then (reach route change path origin inner).map (.table origin) else none
  | some (.tables earlier last) =>
    (reach route change path .header last).map (.tables earlier)
  | some _ => none

theorem reach_cons (route : Route) (change : Origin → Table → Option Table) (name : String)
    (path : List String) (origin : Origin) (t : Table) :
    t.reach route change (name :: path) origin = t.touch name (through route change path) := by
  rw [reach, touch]
  cases there : t.get? name with
  | none =>
    simp only [through, Option.map_map]
    rfl
  | some value =>
    cases value with
    | table origin inner =>
      simp only [through]
      split
      · rw [Option.map_map]
        rfl
      · rfl
    | tables earlier last =>
      simp only [through, Option.map_map]
      rfl
    | _ => simp only [through, Option.map_none]

/-- A change of a table is one of what is at a name. -/
def Local (name : String) (f : Table → Option Table) : Prop :=
  ∃ change, ∀ t, f t = t.touch name change

end Table

def Key.first (key : Key) : String := key.path.headD key.name

namespace Table

theorem local_follow {route : Route} {key : Key} {change : Origin → Table → Option Table}
    (last : key.path = [] → Local key.name (change .header)) : Local key.first (follow route key change) := by
  by_cases short : key.path.length < maxKey
  · obtain ⟨path, name⟩ := key
    cases path with
    | nil =>
      obtain ⟨f, same⟩ := last rfl
      exact ⟨f, fun t => (if_pos short).trans (same t)⟩
    | cons first path =>
      exact ⟨_, fun t => (if_pos short).trans (reach_cons route change first path .header t)⟩
  · refine ⟨fun _ => none, fun t => ?_⟩
    rw [follow, if_neg short, touch]
    cases t.get? key.first <;> rfl

theorem local_addNew (name : String) (value : Value) : Local name (addNew name value) :=
  ⟨fun old => if old.isNone then some value else none, fun t => by
    rw [addNew, touch]
    cases t.get? name <;> rfl⟩

theorem local_assign (key : Key) (value : Value) : Local key.first (assign key value) := by
  refine local_follow fun top => ?_
  obtain ⟨f, same⟩ := local_addNew key.name value
  exact ⟨f, fun t => (if_pos (.inl top)).trans (same t)⟩

def opened : Option Value → Option Value
  | none => some (.table .header [])
  | some (.table .passed inner) => some (.table .header inner)
  | some _ => none

def repeated : Option Value → Option Value
  | none => some (.tables [] [])
  | some (.tables earlier last) => some (.tables (earlier ++ [last]) [])
  | some _ => none

theorem local_openTable (key : Key) : Local key.first (openTable key) := by
  refine local_follow fun _ => ⟨opened, fun t => ?_⟩
  dsimp only
  rw [touch]
  cases t.get? key.name with
  | none => rfl
  | some value =>
    cases value with
    | table origin inner => cases origin <;> rfl
    | _ => rfl

theorem local_openElement (key : Key) : Local key.first (openElement key) := by
  refine local_follow fun _ => ⟨repeated, fun t => ?_⟩
  dsimp only
  rw [touch]
  cases t.get? key.name with
  | none => rfl
  | some value => cases value <;> rfl

end Table

namespace Statement

/-- The name in the whole table that a statement is about, below a header that is open. -/
def root (path : List String) : Statement → String
  | .assign key _ => path.headD key.first
  | .table key | .element key => key.first

def place (path : List String) : Statement → List String
  | .assign _ _ => path
  | .table key | .element key => key.path ++ [key.name]

end Statement

/-- What a statement makes of a document is a change at one name of the whole table. -/
theorem step_local (path : List String) (s : Statement) :
    ∃ change, ∀ t, Draft.step ⟨t, path⟩ s =
      (Table.touch (s.root path) change t).map (⟨·, s.place path⟩) := by
  have lift {name : String} {f : Table → Option Table} (h : Table.Local name f)
      (place : List String) : ∃ change, ∀ t, (f t).map (Draft.mk · place) =
        (Table.touch name change t).map (⟨·, place⟩) := by
    obtain ⟨change, same⟩ := h
    exact ⟨change, fun t => by rw [same]⟩
  cases s with
  | assign key value =>
    cases path with
    | nil => exact lift (Table.local_assign key value) []
    | cons first path =>
      exact ⟨_, fun t => by rw [Draft.step, Table.reach_cons]; rfl⟩
  | table key => exact lift (Table.local_openTable key) _
  | element key => exact lift (Table.local_openElement key) _

def Foreign (names : List String) : List String → List Statement → Prop
  | _, [] => True
  | path, s :: statements => s.root path ∉ names ∧ Foreign names (s.place path) statements

/-- Lines that assign to known names, with statements about other names among them: the names
and what they are assigned, and the other statements. Below a header there are no known names. -/
inductive Mixed (names : List String) :
    List (Option Statement) → List (String × Option Value) → List Statement → Prop
  | rest {others : List Statement} (f : Foreign names [] others) :
    Mixed names (others.map some) [] others
  | known {lines : List (Option Statement)} {entries : List (String × Option Value)}
    {others : List Statement} {name : String} (known : name ∈ names) (datum : Option Value)
    (m : Mixed names lines entries others) :
    Mixed names (datum.map (.assign ⟨[], name⟩) :: lines) ((name, datum) :: entries) others
  | foreign {lines : List (Option Statement)} {entries : List (String × Option Value)}
    {others : List Statement} {key : Key} (foreign : key.first ∉ names) (value : Value)
    (m : Mixed names lines entries others) :
    Mixed names (some (.assign key value) :: lines) entries (.assign key value :: others)

def Table.Alike (names : List String) (t u : Table) : Prop := ∀ n ∉ names, t.get? n = u.get? n

theorem Table.Alike.step {names path : List String} {t u : Table} {s : Statement} {d : Draft}
    (alike : t.Alike names u) (other : s.root path ∉ names) (h : Draft.step ⟨u, path⟩ s = some d) :
    d.path = s.place path ∧ ∃ t', Draft.step ⟨t, path⟩ s = some ⟨t', s.place path⟩ ∧
      t'.Alike names d.root ∧ ∀ n ∈ names, t'.get? n = t.get? n := by
  obtain ⟨change, same⟩ := step_local path s
  rw [same] at h
  obtain ⟨u', touched, rfl⟩ := Option.map_eq_some_iff.mp h
  refine ⟨rfl, ?_⟩
  have possible : (t.touch (s.root path) change).isSome := by
    rw [Table.touch_isSome, alike _ other, ← Table.touch_isSome, touched]
    rfl
  obtain ⟨t', touched'⟩ := Option.isSome_iff_exists.mp possible
  refine ⟨t', by rw [same, touched']; rfl, fun n hn => ?_, fun n hn => ?_⟩
  · rw [Table.get?_touch touched', Table.get?_touch touched, alike _ other, alike n hn]
  · rw [Table.get?_touch touched', if_neg (ne_of_mem_of_not_mem hn other)]

/-- Statements about other names do the same, and leave the names alone. -/
theorem foldlM_foreign {names path : List String} {others : List Statement} {t u : Table} {d : Draft}
    (f : Foreign names path others) (alike : t.Alike names u)
    (h : others.foldlM Draft.step ⟨u, path⟩ = some d) :
    ∃ t', others.foldlM Draft.step ⟨t, path⟩ = some ⟨t', d.path⟩ ∧
      ∀ n ∈ names, t'.get? n = t.get? n := by
  induction others generalizing path t u with
  | nil =>
    cases h
    exact ⟨t, rfl, fun _ _ => rfl⟩
  | cons s others ih =>
    obtain ⟨next, first, h⟩ := Option.bind_eq_some_iff.mp h
    obtain ⟨place, t₁, first', alike', kept⟩ := alike.step f.1 first
    obtain ⟨root, path⟩ := next
    subst place
    obtain ⟨t', h', kept'⟩ := ih f.2 alike' h
    refine ⟨t', ?_, fun n hn => (kept' n hn).trans (kept n hn)⟩
    rw [List.foldlM_cons, first']
    exact h'

theorem step_known {name : String} {t : Table} (fresh : t.get? name = none) (value : Value) :
    Draft.step ⟨t, []⟩ (.assign ⟨[], name⟩ value) = some ⟨t.add name value, []⟩ := by
  simp [Draft.step, Table.reach, Table.assign, Table.follow, maxKey, Table.addNew, fresh]

theorem mapM_cons_eq_some {line : Option Statement} {lines : List (Option Statement)}
    {statements : List Statement} (h : (line :: lines).mapM id = some statements) :
    ∃ s rest, line = some s ∧ lines.mapM id = some rest ∧ statements = s :: rest := by
  rw [List.mapM_cons] at h
  obtain ⟨s, first, h⟩ := Option.bind_eq_some_iff.mp h
  obtain ⟨rest, all, h⟩ := Option.bind_eq_some_iff.mp h
  exact ⟨s, rest, first, all, (Option.some.inj h).symm⟩

theorem mapM_map_some (statements : List Statement) :
    (statements.map some).mapM id = some statements := by
  induction statements with
  | nil => rfl
  | cons s statements ih =>
    rw [List.map_cons, List.mapM_cons, ih]
    rfl

theorem Mixed.known_of_mem {names : List String} {lines : List (Option Statement)}
    {entries : List (String × Option Value)} {others : List Statement}
    (m : Mixed names lines entries others) : ∀ e ∈ entries, e.1 ∈ names := by
  induction m with
  | rest => exact nofun
  | known known datum m ih => exact List.forall_mem_cons.mpr ⟨known, ih⟩
  | foreign foreign value m ih => exact ih

theorem foldlM_mixed {names : List String} {lines : List (Option Statement)}
    {entries : List (String × Option Value)} {others statements : List Statement}
    (m : Mixed names lines entries others) (all : lines.mapM id = some statements)
    (distinct : (entries.map Prod.fst).Nodup) {t u : Table} {d : Draft} (alike : t.Alike names u)
    (fresh : ∀ e ∈ entries, t.get? e.1 = none) (h : others.foldlM Draft.step ⟨u, []⟩ = some d) :
    ∃ t', statements.foldlM Draft.step ⟨t, []⟩ = some ⟨t', d.path⟩ ∧
      (∀ e ∈ entries, t'.get? e.1 = e.2) ∧
      ∀ n ∈ names, n ∉ entries.map Prod.fst → t'.get? n = t.get? n := by
  induction m generalizing t u statements with
  | rest f =>
    rw [mapM_map_some] at all
    cases all
    obtain ⟨t', made, kept⟩ := foldlM_foreign f alike h
    exact ⟨t', made, nofun, fun n hn _ => kept n hn⟩
  | @known lines entries others name known datum m ih =>
    obtain ⟨s, statements, first, all', rfl⟩ := mapM_cons_eq_some all
    obtain ⟨value, rfl, rfl⟩ := Option.map_eq_some_iff.mp first
    obtain ⟨once, distinct⟩ := List.nodup_cons.mp distinct
    have absent : t.get? name = none := fresh _ List.mem_cons_self
    have added := Table.get?_add absent value
    have alike' : (t.add name value).Alike names u := fun n hn => by
      rw [added, if_neg (ne_of_mem_of_not_mem known hn).symm, alike n hn]
    have fresh' : ∀ e ∈ entries, (t.add name value).get? e.1 = none := fun e he => by
      have other : e.1 ≠ name := ne_of_mem_of_not_mem (List.mem_map_of_mem he) once
      rw [added, if_neg other, fresh e (List.mem_cons_of_mem _ he)]
    obtain ⟨t', made, given, kept⟩ := ih all' distinct alike' fresh' h
    refine ⟨t', ?_, List.forall_mem_cons.mpr ⟨?_, given⟩, fun n hn absent' => ?_⟩
    · rw [List.foldlM_cons, step_known absent]
      exact made
    · rw [kept name known once, added, if_pos rfl]
    · rw [List.map_cons, List.mem_cons, not_or] at absent'
      rw [kept n hn absent'.2, added, if_neg absent'.1]
  | @foreign lines entries others key foreign value m ih =>
    obtain ⟨s, statements, first, all', rfl⟩ := mapM_cons_eq_some all
    cases first
    obtain ⟨next, step, h⟩ := Option.bind_eq_some_iff.mp h
    have other : (Statement.assign key value).root [] ∉ names := foreign
    obtain ⟨place, t₁, step', alike', same⟩ := alike.step other step
    obtain ⟨root, path⟩ := next
    subst place
    have fresh' : ∀ e ∈ entries, t₁.get? e.1 = none := fun e he =>
      (same _ (m.known_of_mem e he)).trans (fresh e he)
    obtain ⟨t', made, given, kept⟩ := ih all' distinct alike' fresh' h
    refine ⟨t', ?_, given, fun n hn absent => (kept n hn absent).trans (same n hn)⟩
    rw [List.foldlM_cons, step']
    exact made

theorem ofStatements?_mixed {names : List String} {lines : List (Option Statement)}
    {entries : List (String × Option Value)} {others statements : List Statement} {u : Table}
    (m : Mixed names lines entries others) (all : lines.mapM id = some statements)
    (distinct : (entries.map Prod.fst).Nodup) (alone : Table.ofStatements? others = some u) :
    ∃ t, Table.ofStatements? statements = some t ∧ (∀ e ∈ entries, t.get? e.1 = e.2) ∧
      ∀ n ∈ names, n ∉ entries.map Prod.fst → t.get? n = none := by
  obtain ⟨d, made, -⟩ := Option.map_eq_some_iff.mp alone
  obtain ⟨t, made', given, kept⟩ := foldlM_mixed m all distinct (t := []) (u := [])
    (fun _ _ => rfl) (fun _ _ => rfl) made
  refine ⟨t, ?_, given, kept⟩
  rw [Table.ofStatements?, Draft.empty, made']
  rfl

theorem Mixed.readable_iff {names : List String} {lines : List (Option Statement)}
    {entries : List (String × Option Value)} {others : List Statement}
    (m : Mixed names lines entries others) :
    (lines.mapM id).isSome = true ↔ ∀ e ∈ entries, e.2.isSome = true := by
  have cons (line : Option Statement) (lines : List (Option Statement)) :
      ((line :: lines).mapM id).isSome = (line.isSome && (lines.mapM id).isSome) := by
    rw [List.mapM_cons]
    cases line with
    | none => rfl
    | some s => cases lines.mapM id <;> rfl
  induction m with
  | rest f => exact iff_of_true (by rw [mapM_map_some]; rfl) nofun
  | known known datum m ih =>
    rw [cons, Option.isSome_map, Bool.and_eq_true, List.forall_mem_cons]
    exact and_congr_right' ih
  | foreign foreign value m ih =>
    rw [cons, Option.isSome_some, Bool.true_and]
    exact ih

end HopProbe.Toml
