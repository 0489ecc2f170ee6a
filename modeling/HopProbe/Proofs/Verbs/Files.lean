import HopProbe.Proofs.Verbs.Change
import HopProbe.Proofs.World.Paths

/-!
# Steps of FILE

What the system says of a path is shown, and that there is nothing is an
answer. A file that is to be written needs a directory to be in: the step looks
for it by the text of the path, and what that text does not tell is left to
the system.
-/

set_option autoImplicit false

namespace HopProbe.Verbs.File
open HopProbe.Text FileSystem

def ending {α : Type} (path : String) (shown : α → String) : Except IoError α → Attempt
  | .ok a => .finished (shown a)
  | .error e => if e = .noEntry then .finished (notFound path) else .failed (.fault (.io e))

theorem outcome_unlessMissing {α : Type} (path : String) (shown : α → String)
    (answer : Except IoError α) (w : World) :
    (unlessMissing path shown answer).outcome w = (ending path shown answer, w) := by
  cases answer with
  | ok a => rfl
  | error e =>
    simp only [unlessMissing, ending]
    split <;> rfl

theorem ending_ne_noEntry {α : Type} (path : String) (shown : α → String)
    (answer : Except IoError α) :
    ending path shown answer ≠ .failed (.fault (.io .noEntry)) := by
  cases answer with
  | ok a => exact nofun
  | error e =>
    rw [ending]
    split
    · exact nofun
    · next other =>
      intro same
      cases same
      exact other rfl

theorem outcome_list (path : String) (context : Context) (w : World) :
    (perform ⟨.list, path⟩ context).outcome w =
      (ending path listing (w.files.readDirectory (Utf8.bytes path)), w.record (.file path)) :=
  outcome_unlessMissing path listing _ (w.record (.file path))

theorem outcome_read (path : String) (context : Context) (w : World) :
    (perform ⟨.read, path⟩ context).outcome w =
      (ending path HopProbe.Blob.contentText (w.files.readFile (Utf8.bytes path)),
        w.record (.file path)) :=
  outcome_unlessMissing path HopProbe.Blob.contentText _ (w.record (.file path))

theorem outcome_write (path content : String) (context : Context) (w : World) :
    (perform ⟨.write content, path⟩ context).outcome w =
      match hasParent w.files (Utf8.bytes path) with
      | .error e => (.failed (.fault (.io e)), w.record (.file path))
      | .ok false => (.finished (notFound path), w.record (.file path))
      | .ok true =>
        match w.files.writeFile (Utf8.bytes path) (Utf8.bytes content) with
        | .error e => (.failed (.fault (.io e)), w.record (.file path))
        | .ok files =>
          (.finished ("Wrote " ++ toString (Utf8.bytes content).length ++ " bytes to " ++ path),
            { w.record (.file path) with files }) := by
  -- What is done behind the record is done in the world that the record left.
  have same : (perform ⟨.write content, path⟩ context).outcome w =
      (do
        if ← Effect.ofExcept Fault.io (hasParent w.files (Utf8.bytes path)) then
          let files ← Effect.ofExcept Fault.io
            (w.files.writeFile (Utf8.bytes path) (Utf8.bytes content))
          modify fun w => { w with files }
          return "Wrote " ++ toString (Utf8.bytes content).length ++ " bytes to " ++ path
        else return notFound path : Effect String).outcome (w.record (.file path)) := rfl
  rw [same, Effect.outcome, Effect.run_bind]
  cases hasParent w.files (Utf8.bytes path) with
  | error e => rfl
  | ok there =>
    cases there with
    | false => rfl
    | true =>
      rw [Effect.run_ofExcept_ok]
      dsimp only
      rw [if_pos rfl, Effect.run_bind]
      cases w.files.writeFile (Utf8.bytes path) (Utf8.bytes content) <;> rfl

/-- The names to the parent of a path are its names without the last and without dots, but for
one at its start. -/
theorem parentNames?_cases (path : List UInt8) :
    ∃ kept, Undotted (names path) kept ∧
      (parentNames? path = none ∧ kept.length ≤ 1 ∨
        ∃ front name, kept = front ++ [name] ∧ parentNames? path = some front ∧
          (isAbsolute path = false → front ≠ [])) := by
  obtain ⟨kept, undotted, same⟩ : ∃ kept, Undotted (names path) kept ∧ parentNames? path =
      if kept.length ≤ 1 then if kept ≠ [] ∧ isAbsolute path = true then some [] else none
      else some kept.dropLast := by
    rw [parentNames?]
    cases names path with
    | nil => exact ⟨[], .nil, rfl⟩
    | cons first rest =>
      dsimp only
      by_cases bare : first = dot ∧ (!isAbsolute path) = true
      · rw [if_pos bare]
        refine ⟨_, (Undotted.filter rest).keep first, ?_⟩
        cases rest.filter (· ≠ dot) <;> simp
      · rw [if_neg bare]
        refine ⟨_, .filter (first :: rest), ?_⟩
        rcases (first :: rest).filter (· ≠ dot) with _ | ⟨name, _ | ⟨next, more⟩⟩ <;> simp
  refine ⟨kept, undotted, ?_⟩
  rcases kept with _ | ⟨name, _ | ⟨next, rest⟩⟩
  · exact .inl ⟨same, Nat.zero_le 1⟩
  · cases absolute : isAbsolute path with
    | true => exact .inr ⟨[], name, rfl, by rw [same, absolute]; rfl, nofun⟩
    | false => exact .inl ⟨by rw [same, absolute]; rfl, Nat.le_refl 1⟩
  · have whole := (List.dropLast_concat_getLast (List.cons_ne_nil name (next :: rest))).symm
    exact .inr ⟨_, _, whole, same.trans (if_neg (by simp)), fun _ => List.cons_ne_nil _ _⟩

theorem hasParent_cases {path : List UInt8} (usable : checkPath path = .ok ()) (files : FileSystem) :
    ∃ kept, Undotted (names path) kept ∧
      (hasParent files path = .ok true ∧ kept.length ≤ 1 ∨
        ∃ front name, kept = front ++ [name] ∧ hasParent files path =
          match files.walk maxLinks (files.startOf path) front with
          | .ok d => .ok (files.node? d).isSome
          | .error e => if e = .noEntry then .ok false else .error e) := by
  obtain ⟨kept, undotted, none | ⟨front, name, rfl, some, filled⟩⟩ := parentNames?_cases path
  · refine ⟨kept, undotted, .inl ⟨?_, none.2⟩⟩
    rw [hasParent, parent?, none.1]
    rfl
  · refine ⟨_, undotted, .inr ⟨front, name, rfl, ?_⟩⟩
    have inside : front.Sublist (names path) :=
      (List.sublist_append_left front [name]).trans undotted.sublist
    have found : parent? path = .some (pathOf (isAbsolute path) front) := by
      rw [parent?, some]
      rfl
    simp only [hasParent, found, contains?, stat, locate_pathOf inside usable filled]
    cases files.walk maxLinks (files.startOf path) front with
    | error e => rfl
    | ok d =>
      cases there : files.node? d with
      | none => simp [there, bind, Except.bind]
      | some node => simp [there, bind, Except.bind]

/-- Paths of which a step does not see that there is nothing to write to. -/
inductive Overlooked (files : FileSystem) (path : List UInt8) : Prop
  /-- The empty path has no parent. -/
  | empty (h : path = [])
  /-- A dot at the end of a path is no part of its text, but of the way to it. -/
  | dotted (parent : hasParent files path = .ok true) {front : List FileName}
    (ends : names path = front ++ [dot])
  /-- A link is there, but leads to a place where nothing is. -/
  | link (parent : hasParent files path = .ok true) {front here : List FileName} {name : FileName}
    {target : List UInt8} (ends : names path = front ++ [name])
    (walked : files.walk maxLinks (files.startOf path) front = .ok here)
    (there : files.node? (here ++ [name]) = some (.link target))

theorem Overlooked.hasParent {files : FileSystem} {path : List UInt8} (h : Overlooked files path) :
    hasParent files path = .ok true := by
  cases h with
  | empty h => subst h; rfl
  | dotted parent => exact parent
  | link parent => exact parent

theorem overlooked_behind {files : FileSystem} {path : List UInt8} {front dots : List FileName}
    {name : FileName} {here : List FileName} {left : Nat} {slashEnd : Bool}
    (parent : hasParent files path = .ok true) (whole : names path = front ++ name :: dots)
    (idle : ∀ d ∈ dots, d = dot)
    (walked : files.walk maxLinks (files.startOf path) front = .ok here)
    (missing : files.place left here slashEnd (name :: dots) = .error .noEntry) :
    Overlooked files path := by
  by_cases none : dots = []
  · subst none
    obtain ⟨target, link⟩ := link_of_place (isSome_walk (isSome_startOf path) walked) missing
    exact .link parent whole walked link
  · have last := List.dropLast_concat_getLast none
    rw [idle _ (List.getLast_mem none)] at last
    have ends : names path = (front ++ name :: dots.dropLast) ++ [dot] := by
      rw [whole, ← last]
      simp
    exact .dotted parent ends

theorem place_of_missing {files : FileSystem} {path content : List UInt8}
    (missing : files.writeFile path content = .error .noEntry) :
    path = [] ∨ checkPath path = .ok () ∧
      files.place maxLinks (files.startOf path) (hasSlashEnd path) (names path) =
        .error .noEntry := by
  cases usable : checkPath path with
  | error e =>
    simp only [writeFile, usable, bind, Except.bind] at missing
    cases missing
    exact .inl (eq_nil_of_checkPath usable)
  | ok _ =>
    simp only [writeFile, usable, bind, Except.bind] at missing
    split at missing
    · next failed =>
      exact .inr ⟨rfl, failed.trans (congrArg Except.error (Except.error.inj missing))⟩
    · cases missing

theorem missed {files : FileSystem} {links : Nat} {start before tail : List FileName}
    {slashEnd : Bool} (more : tail ≠ [])
    (missing : files.place links start slashEnd (before ++ tail) = .error .noEntry) :
    files.walk links start before = .error .noEntry ∨
      ∃ here left, files.walk links start before = .ok here ∧
        files.place left here slashEnd tail = .error .noEntry := by
  obtain ⟨stops, goes⟩ : Leads files slashEnd tail (files.walk links start before)
      (files.place links start slashEnd (before ++ tail)) :=
    leads_place (Undotted.refl before) more slashEnd
  rw [missing] at stops goes
  cases walked : files.walk links start before with
  | error e => exact .inl (stops e walked).symm
  | ok here =>
    obtain ⟨left, same⟩ := goes here walked
    exact .inr ⟨here, left, rfl, same.symm⟩

/-- Where the system finds nothing to write to, the step sees that the parent is not there, or
the path is of a kind that it overlooks. -/
theorem hasParent_of_missing {files : FileSystem} {path content : List UInt8}
    (missing : files.writeFile path content = .error .noEntry) :
    hasParent files path = .ok false ∨ Overlooked files path := by
  obtain empty | ⟨usable, missing⟩ := place_of_missing missing
  · exact .inr (.empty empty)
  have other : (.error .noEntry : Except IoError (List FileName)) ≠ .error .notDirectory :=
    fun same => absurd (Except.error.inj same) (by decide)
  have start : (files.node? (files.startOf path)).isSome := isSome_startOf path
  obtain ⟨kept, undotted, ⟨parent, short⟩ | ⟨front, name, rfl, parent⟩⟩ :=
    hasParent_cases usable files
  · rcases kept with _ | ⟨name, _ | ⟨next, rest⟩⟩
    · -- Nothing but dots is in the path.
      cases whole : names path with
      | nil =>
        rw [whole, place] at missing
        cases missing
      | cons first rest =>
        have filled : names path ≠ [] := by simp [whole]
        have last := List.dropLast_concat_getLast filled
        rw [undotted.dots _ (List.getLast_mem filled)] at last
        exact .inr (.dotted parent last.symm)
    · replace undotted : Undotted (names path) ([] ++ [name]) := undotted
      obtain ⟨before, dots, whole, fewer, idle⟩ := undotted.concat
      obtain failed | ⟨here, left, walked, missing⟩ := missed (by simp) (whole ▸ missing)
      · have same := walk_undotted fewer start (failed ▸ other)
        rw [failed, walk] at same
        cases same
      · exact .inr (overlooked_behind parent whole idle walked missing)
    · exact absurd short (by simp)
  · obtain ⟨before, dots, whole, fewer, idle⟩ := undotted.concat
    obtain failed | ⟨here, left, walked, missing⟩ := missed (by simp) (whole ▸ missing)
    · rw [walk_undotted fewer start (failed ▸ other), failed] at parent
      exact .inl parent
    · rw [walk_undotted fewer start (by rw [walked]; simp), walked] at parent
      replace parent : hasParent files path = .ok (files.node? here).isSome := parent
      cases there : (files.node? here).isSome with
      | false => exact .inl (there ▸ parent)
      | true => exact .inr (overlooked_behind (there ▸ parent) whole idle walked missing)

def Missing (files : FileSystem) (action : Action) : Prop :=
  match action.operation with
  | .list => files.readDirectory (Utf8.bytes action.path) = .error .noEntry
  | .read => files.readFile (Utf8.bytes action.path) = .error .noEntry
  | .write content =>
    files.writeFile (Utf8.bytes action.path) (Utf8.bytes content) = .error .noEntry

def Overlooks (files : FileSystem) (action : Action) : Prop :=
  ∃ content, action.operation = .write content ∧ Overlooked files (Utf8.bytes action.path)

theorem hasParent_ne_noEntry (files : FileSystem) (path : List UInt8) :
    hasParent files path ≠ .error .noEntry := by
  rw [hasParent]
  cases parent? path with
  | none => exact nofun
  | some parent =>
    dsimp only
    rw [contains?]
    cases files.stat parent with
    | ok node => exact nofun
    | error e =>
      dsimp only
      split
      · exact nofun
      · next other => exact fun same => other (Except.error.inj same)

/-- A write fails with this error just where the parent was seen and the system finds none. -/
theorem write_failed_iff {path content : String} {context : Context} {w : World} :
    ((perform ⟨.write content, path⟩ context).outcome w).1 = .failed (.fault (.io .noEntry)) ↔
      hasParent w.files (Utf8.bytes path) = .ok true ∧
        w.files.writeFile (Utf8.bytes path) (Utf8.bytes content) = .error .noEntry := by
  rw [outcome_write]
  cases parent : hasParent w.files (Utf8.bytes path) with
  | error e =>
    refine iff_of_false (fun same => ?_) nofun
    cases same
    exact hasParent_ne_noEntry _ _ parent
  | ok there =>
    cases there with
    | false => exact iff_of_false nofun nofun
    | true =>
      cases w.files.writeFile (Utf8.bytes path) (Utf8.bytes content) with
      | ok files => exact iff_of_false nofun nofun
      | error e =>
        dsimp only
        constructor
        · intro same
          cases same
          exact ⟨rfl, rfl⟩
        · rintro ⟨-, same⟩
          cases same
          rfl

/-- That nothing is at its path is what a step says, and it fails with this error of the system
just where it overlooks it. Either way it writes nothing. -/
theorem missing_shown {args : List String} {action : Action} (read : readArgs args = .ok action)
    (context : Context) (w : World) :
    (Missing w.files action →
      ((builtinHandler .file).execute args context w).2 = w.record (.file action.path)) ∧
    (Missing w.files action → ¬ Overlooks w.files action →
      ((builtinHandler .file).execute args context w).1 =
        .finished ("Path not found: " ++ action.path)) ∧
    (((builtinHandler .file).execute args context w).1 = .failed (.fault (.io .noEntry)) ↔
      Missing w.files action ∧ Overlooks w.files action) := by
  have same : (builtinHandler .file).execute args context w = (perform action context).outcome w :=
    phases.execute_of_read_ok read context w
  obtain ⟨operation, path⟩ := action
  rw [same]
  cases operation with
  | list =>
    rw [outcome_list]
    refine ⟨fun _ => rfl, fun missing _ => ?_, iff_of_false ?_ fun ⟨_, _, other, _⟩ => nomatch other⟩
    · exact congrArg (ending path listing) missing
    · exact ending_ne_noEntry path listing _
  | read =>
    rw [outcome_read]
    refine ⟨fun _ => rfl, fun missing _ => ?_, iff_of_false ?_ fun ⟨_, _, other, _⟩ => nomatch other⟩
    · exact congrArg (ending path HopProbe.Blob.contentText) missing
    · exact ending_ne_noEntry path HopProbe.Blob.contentText _
  | write content =>
    have seen (missing : Missing w.files ⟨.write content, path⟩) :
        hasParent w.files (Utf8.bytes path) = .ok false ∨ Overlooked w.files (Utf8.bytes path) :=
      hasParent_of_missing missing
    refine ⟨fun missing => ?_, fun missing clear => ?_, write_failed_iff.trans ⟨?_, ?_⟩⟩
    · rw [outcome_write]
      obtain parent | overlooked := seen missing
      · rw [parent]
      · rw [overlooked.hasParent, show w.files.writeFile _ _ = _ from missing]
    · obtain parent | overlooked := seen missing
      · rw [outcome_write, parent]
        rfl
      · exact absurd ⟨content, rfl, overlooked⟩ clear
    · rintro ⟨parent, missing⟩
      obtain none | overlooked := seen missing
      · rw [parent] at none
        cases none
      · exact ⟨missing, content, rfl, overlooked⟩
    · rintro ⟨missing, _, _, overlooked⟩
      exact ⟨overlooked.hasParent, missing⟩

theorem missing_shown_of_empty_path :
    let context : Context := ⟨[], .empty⟩
    ((builtinHandler .file).execute ["READ", ""] context World.still).1 =
        .finished "Path not found: " ∧
      ((builtinHandler .file).execute ["WRITE", "", "x"] context World.still).1 =
        .failed (.fault (.io .noEntry)) := by
  intro context
  have reads : readArgs ["READ", ""] = .ok ⟨.read, ""⟩ := rfl
  have writes : readArgs ["WRITE", "", "x"] = .ok ⟨.write "x", ""⟩ := rfl
  have unread : Missing World.still.files ⟨.read, ""⟩ := rfl
  have unwritten : Missing World.still.files ⟨.write "x", ""⟩ := rfl
  have clear : ¬ Overlooks World.still.files ⟨.read, ""⟩ := by
    rintro ⟨content, other, -⟩
    cases other
  have overlooked : Overlooks World.still.files ⟨.write "x", ""⟩ := ⟨"x", rfl, .empty rfl⟩
  exact ⟨(missing_shown reads context World.still).2.1 unread clear,
    (missing_shown writes context World.still).2.2.mpr ⟨unwritten, overlooked⟩⟩

end HopProbe.Verbs.File
