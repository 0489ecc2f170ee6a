import HopProbe.Proofs.Text.Cut
import HopProbe.Proofs.World.Failure
import HopProbe.World.FileSystem
import Mathlib.Tactic.SplitIfs

/-!
# The way to a file

A file is written behind the place where the walk along the other names ends,
with as many links left as the walk has not followed. Dots on the way can stop
a walk only where nothing could be found behind them anyway, so that a walk
without them ends in the same place.
-/

set_option autoImplicit false

namespace HopProbe.FileSystem
open HopProbe.Text

/-- Names, and the same without some of the dots among them. -/
inductive Undotted : List FileName → List FileName → Prop
  | nil : Undotted [] []
  | keep (name : FileName) {names fewer : List FileName} (h : Undotted names fewer) :
    Undotted (name :: names) (name :: fewer)
  | drop {names fewer : List FileName} (h : Undotted names fewer) : Undotted (dot :: names) fewer

namespace Undotted

theorem refl (names : List FileName) : Undotted names names := by
  induction names with
  | nil => exact .nil
  | cons name names ih => exact ih.keep name

theorem filter (names : List FileName) : Undotted names (names.filter (· ≠ dot)) := by
  induction names with
  | nil => exact .nil
  | cons name names ih =>
    by_cases h : name = dot
    · simpa [h] using ih.drop
    · simpa [h] using ih.keep name

theorem append {front fewer rest others : List FileName} (h : Undotted front fewer)
    (h' : Undotted rest others) : Undotted (front ++ rest) (fewer ++ others) := by
  induction h with
  | nil => exact h'
  | keep name _ ih => exact ih.keep name
  | drop _ ih => exact ih.drop

theorem sublist {names fewer : List FileName} (h : Undotted names fewer) : fewer.Sublist names := by
  induction h with
  | nil => exact .slnil
  | keep name _ ih => exact ih.cons_cons name
  | drop _ ih => exact ih.cons _

theorem dots {names : List FileName} (h : Undotted names []) : ∀ d ∈ names, d = dot := by
  generalize none : ([] : List FileName) = fewer at h
  induction h with
  | nil => simp
  | keep => cases none
  | drop _ ih => simpa using ih none

theorem concat {names front : List FileName} {name : FileName}
    (h : Undotted names (front ++ [name])) :
    ∃ before dots, names = before ++ name :: dots ∧ Undotted before front ∧ ∀ d ∈ dots, d = dot := by
  generalize kept : front ++ [name] = fewer at h
  induction h generalizing front with
  | nil => simp at kept
  | @keep first names fewer h ih =>
    cases front with
    | nil =>
      obtain ⟨rfl, rfl⟩ := List.cons.inj kept
      exact ⟨[], names, rfl, .nil, h.dots⟩
    | cons other front =>
      obtain ⟨rfl, rest⟩ := List.cons.inj kept
      obtain ⟨before, dots, rfl, h, all⟩ := ih rest
      exact ⟨other :: before, dots, rfl, h.keep other, all⟩
  | drop _ ih =>
    obtain ⟨before, dots, rfl, h, all⟩ := ih kept
    exact ⟨dot :: before, dots, rfl, h.drop, all⟩

theorem of_plain {name : FileName} {names fewer : List FileName} (h : Undotted (name :: names) fewer)
    (plain : ¬ (name = dot ∨ name = dotDot)) :
    ∃ kept, fewer = name :: kept ∧ Undotted names kept := by
  cases h with
  | keep _ h => exact ⟨_, rfl, h⟩
  | drop h => exact absurd (Or.inl rfl) plain

end Undotted

variable {fs : FileSystem}

theorem node?_offer {path : List FileName} (fits : fs.Open path) (node : Node)
    (other : List FileName) :
    (fs.offer path node).node? other = if other = path then some node else fs.node? other := by
  rw [offer, dif_pos fits]
  exact at?_changed fs fits.below node other

/-- What a place is in is a directory. -/
theorem node?_dropLast {path : List FileName} {node : Node} (there : fs.node? path = some node) :
    fs.node? path.dropLast = some .directory := by
  by_cases root : path = []
  · subst root
    rfl
  · refine fs.inside path ?_
    rw [node?, Node.at?, if_neg root] at there
    obtain ⟨v, found, -⟩ := Option.map_eq_some_iff.mp there
    have same : v.1 = path := by simpa using List.find?_some found
    exact same ▸ List.mem_map_of_mem (List.mem_of_find?_eq_some found)

theorem isSome_startOf (path : List UInt8) : (fs.node? (fs.startOf path)).isSome := by
  have home : (fs.node? fs.current).isSome := Option.isSome_of_eq_some fs.home
  rw [startOf]
  split
  · rfl
  · exact home

theorem match_of_no_directory {α : Type} {node : Option Node} (inside outside : α) :
    node ≠ some .directory →
      (match node with
        | some .directory => inside
        | _ => outside) = outside := by
  intro h
  cases node with
  | none => rfl
  | some node =>
    cases node with
    | directory => exact absurd rfl h
    | file content => rfl
    | link target => rfl

theorem barrier_of_isSome {here : List FileName} (present : (fs.node? here).isSome) :
    fs.barrier here = .notDirectory :=
  if_pos present

theorem enter_of_no_directory {here : List FileName} (h : fs.node? here ≠ some .directory)
    (name : FileName) : fs.enter here name = .error (fs.barrier here) :=
  match_of_no_directory _ _ h

theorem enter_of_directory {here : List FileName} (h : fs.node? here = some .directory)
    (name : FileName) : fs.enter here name =
      if name.length ≤ maxName then .ok (fs.node? (here ++ [name])) else .error .nameTooLong := by
  rw [enter, h]

theorem place_of_no_directory {here : List FileName} (h : fs.node? here ≠ some .directory)
    {names : List FileName} (more : names ≠ []) (links : Nat) (slashEnd : Bool) :
    fs.place links here slashEnd names = .error (fs.barrier here) := by
  match names, more with
  | [name], _ | name :: next :: rest, _ =>
    rw [place, enter_of_no_directory h]
    split
    · exact match_of_no_directory _ _ h
    · rfl

theorem place_cons {names : List FileName} (more : names ≠ []) (links : Nat) (here : List FileName)
    (slashEnd : Bool) (name : FileName) :
    fs.place links here slashEnd (name :: names) =
      if name = dot ∨ name = dotDot then
        match fs.node? here with
        | some .directory =>
          fs.place links (if name = dot then here else here.dropLast) slashEnd names
        | _ => .error (fs.barrier here)
      else match fs.enter here name with
        | .error e => .error e
        | .ok none => .error .noEntry
        | .ok (some (.link target)) =>
          match links with
          | 0 => .error .tooManyLinks
          | links + 1 =>
            fs.place links (if isAbsolute target then [] else here) slashEnd
              (FileSystem.names target ++ names)
        | .ok (some _) => fs.place links (here ++ [name]) slashEnd names := by
  obtain ⟨next, rest, rfl⟩ := List.exists_cons_of_ne_nil more
  exact place.eq_def fs links here slashEnd (name :: next :: rest)

theorem node_of_enter {here : List FileName} {name : FileName} {found : Option Node}
    (h : fs.enter here name = .ok found) : fs.node? (here ++ [name]) = found := by
  by_cases there : fs.node? here = some .directory
  · rw [enter_of_directory there] at h
    split at h
    · exact Except.ok.inj h
    · cases h
  · rw [enter_of_no_directory there] at h
    cases h

section Walk

variable {here rest : List FileName} {name : FileName} {links : Nat}
  (plain : ¬ (name = dot ∨ name = dotDot))
include plain

theorem walk_absent (h : fs.enter here name = .ok none) :
    fs.walk links here (name :: rest) = .error .noEntry := by
  rw [walk, if_neg plain, h]

theorem walk_link {target : List UInt8} (h : fs.enter here name = .ok (some (.link target))) :
    fs.walk (links + 1) here (name :: rest) =
      fs.walk links (if isAbsolute target then [] else here) (steps target ++ rest) := by
  rw [walk, if_neg plain, h]

theorem walk_through {node : Node} (h : fs.enter here name = .ok (some node))
    (noLink : ∀ target, node ≠ .link target) :
    fs.walk links here (name :: rest) = fs.walk links (here ++ [name]) rest := by
  rw [walk, if_neg plain, h]
  cases node with
  | link target => exact absurd rfl (noLink target)
  | file | directory => rfl

end Walk

theorem readFile_of_name {name : FileName} {content : List UInt8} (usable : checkPath name = .ok ())
    (relative : isAbsolute name = false) (one : steps name = [name])
    (plain : ¬ (name = dot ∨ name = dotDot)) (short : name.length ≤ maxName)
    (there : fs.node? (fs.current ++ [name]) = some (.file content)) :
    fs.readFile name = .ok content := by
  have entered : fs.enter fs.current name = .ok (some (.file content)) := by
    rw [enter_of_directory fs.home, if_pos short, there]
  have walked : fs.walk maxLinks fs.current [name] = .ok (fs.current ++ [name]) := by
    rw [walk_through plain entered (by simp), walk]
  have located : fs.locate name = .ok (fs.current ++ [name]) := by
    rw [locate, usable, one, startOf, relative]
    exact walked
  simp only [readFile, stat, located, there, bind, Except.bind]

theorem readDirectory_dot (fs : FileSystem) : fs.readDirectory dot = .ok (fs.entriesAt fs.current) := by
  have here : fs.node? fs.current = some .directory := fs.home
  have located : fs.locate dot = .ok fs.current := by
    show fs.walk maxLinks fs.current [dot] = .ok fs.current
    rw [walk, if_pos (Or.inl rfl), here]
    dsimp only
    rw [if_pos rfl, walk]
  rw [readDirectory, located]
  show (match fs.node? fs.current with
    | some .directory => Except.ok (fs.entriesAt fs.current)
    | _ => .error IoError.notDirectory) = _
  rw [here]

theorem readFile_alone {name : FileName} (usable : checkPath name = .ok ())
    (relative : isAbsolute name = false) (one : steps name = [name])
    (plain : ¬ (name = dot ∨ name = dotDot)) (short : name.length ≤ maxName) (content : List UInt8) :
    (bare.offer [name] (.file content)).readFile name = .ok content := by
  have fits : bare.Open [name] := ⟨by simp, rfl, nofun⟩
  have start : (bare.offer [name] (.file content)).current = [] := by
    rw [offer, dif_pos fits]
    rfl
  refine readFile_of_name usable relative one plain short ?_
  rw [start, node?_offer fits, if_pos (by simp)]

theorem undotted_steps (path : List UInt8) : Undotted (steps path) (names path) := by
  unfold steps
  split
  · simpa using (Undotted.refl (names path)).append (.drop .nil)
  · exact .refl _

/-- What a walk and the way to a file behind it have to do with each other. -/
def Leads (fs : FileSystem) (slashEnd : Bool) (tail : List FileName)
    (walked : Except IoError (List FileName)) (placed : Except IoError (List FileName)) : Prop :=
  (∀ e, walked = .error e → placed = .error e) ∧
    ∀ d, walked = .ok d → ∃ left, placed = fs.place left d slashEnd tail

theorem leads_error (fs : FileSystem) (slashEnd : Bool) (tail : List FileName) (e : IoError) :
    Leads fs slashEnd tail (.error e) (.error e) :=
  ⟨fun _ h => h, fun _ h => nomatch h⟩

/-- The way to a file is a walk along the names in front and then the way along the rest. The dots
that a target of a link ends the walk with make no difference. -/
theorem leads_place {links : Nat} {here front names tail : List FileName}
    (h : Undotted front names) (more : tail ≠ []) (slashEnd : Bool) :
    Leads fs slashEnd tail (fs.walk links here front)
      (fs.place links here slashEnd (names ++ tail)) := by
  have nonempty (names : List FileName) : names ++ tail ≠ [] := by simp [more]
  fun_induction fs.walk links here front generalizing names with
  | case1 links here =>
    cases h
    refine ⟨fun e failed => ?_, fun d same => ⟨links, by rw [← Except.ok.inj same]; rfl⟩⟩
    cases failed
  | case2 links here name rest special there ih =>
    cases h with
    | keep _ h =>
      rw [List.cons_append, place_cons (nonempty _), if_pos special, there]
      exact ih h
    | drop h => exact ih h
  | case3 links here name rest special none =>
    cases h with
    | keep _ h =>
      rw [List.cons_append, place_of_no_directory none (by simp)]
      exact leads_error ..
    | drop h =>
      rw [place_of_no_directory none (nonempty _)]
      exact leads_error ..
  | case4 links here name rest plain e failed =>
    obtain ⟨fewer, rfl, -⟩ := h.of_plain plain
    rw [List.cons_append, place_cons (nonempty _), if_neg plain, failed]
    exact leads_error ..
  | case5 links here name rest plain none =>
    obtain ⟨fewer, rfl, -⟩ := h.of_plain plain
    rw [List.cons_append, place_cons (nonempty _), if_neg plain, none]
    exact leads_error ..
  | case6 here name rest plain target link =>
    obtain ⟨fewer, rfl, -⟩ := h.of_plain plain
    rw [List.cons_append, place_cons (nonempty _), if_neg plain, link]
    exact leads_error ..
  | case7 here name rest plain target link links ih =>
    obtain ⟨fewer, rfl, others⟩ := h.of_plain plain
    rw [List.cons_append, place_cons (nonempty _), if_neg plain, link]
    have behind := ih ((undotted_steps target).append others)
    rwa [List.append_assoc] at behind
  | case8 links here name rest plain node noLink found ih =>
    obtain ⟨fewer, rfl, others⟩ := h.of_plain plain
    rw [List.cons_append, place_cons (nonempty _), if_neg plain, found]
    cases node with
    | link target => exact absurd rfl (noLink target)
    | file | directory => exact ih others

theorem isSome_walk {links : Nat} {here names place : List FileName}
    (present : (fs.node? here).isSome) (walked : fs.walk links here names = .ok place) :
    (fs.node? place).isSome := by
  fun_induction fs.walk links here names with
  | case1 links here => exact Except.ok.inj walked ▸ present
  | case2 links here name rest special there ih =>
    refine ih ?_ walked
    split
    · exact present
    · exact Option.isSome_of_eq_some (node?_dropLast there)
  | case7 here name rest plain target link links ih =>
    refine ih ?_ walked
    split
    · rfl
    · exact present
  | case8 links here name rest plain node noLink found ih =>
    exact ih (Option.isSome_of_eq_some (node_of_enter found)) walked
  | case3 | case4 | case5 | case6 => cases walked

/-- Without dots a walk ends as it does with them, unless a dot stops it. -/
theorem walk_undotted {links : Nat} {here names fewer : List FileName} (h : Undotted names fewer)
    (present : (fs.node? here).isSome) (walked : fs.walk links here names ≠ .error .notDirectory) :
    fs.walk links here fewer = fs.walk links here names := by
  fun_induction fs.walk links here names generalizing fewer with
  | case1 links here =>
    cases h
    rw [walk]
  | case2 links here name rest special there ih =>
    cases h with
    | keep _ h =>
      rw [walk, if_pos special, there]
      refine ih h ?_ walked
      split
      · exact present
      · exact Option.isSome_of_eq_some (node?_dropLast there)
    | drop h => exact ih h present walked
  | case3 links here name rest special none =>
    rw [barrier_of_isSome present] at walked
    exact absurd rfl walked
  | case4 links here name rest plain e failed =>
    obtain ⟨fewer, rfl, -⟩ := h.of_plain plain
    rw [walk, if_neg plain, failed]
  | case5 links here name rest plain none =>
    obtain ⟨fewer, rfl, -⟩ := h.of_plain plain
    rw [walk_absent plain none]
  | case6 here name rest plain target link =>
    obtain ⟨fewer, rfl, -⟩ := h.of_plain plain
    rw [walk, if_neg plain, link]
  | case7 here name rest plain target link links ih =>
    obtain ⟨fewer, rfl, others⟩ := h.of_plain plain
    rw [walk_link plain link]
    refine ih ((Undotted.refl _).append others) ?_ walked
    split
    · rfl
    · exact present
  | case8 links here name rest plain node noLink found ih =>
    obtain ⟨fewer, rfl, others⟩ := h.of_plain plain
    rw [walk_through plain found noLink]
    exact ih others (Option.isSome_of_eq_some (node_of_enter found)) walked

theorem errs_enter_ne_noEntry {here : List FileName} (present : (fs.node? here).isSome)
    (name : FileName) : Errs (· ≠ .noEntry) (fs.enter here name) := by
  by_cases there : fs.node? here = some .directory
  · rw [enter_of_directory there]
    split
    · exact errs_ok _
    · exact errs_error (by decide)
  · rw [enter_of_no_directory there, barrier_of_isSome present]
    exact errs_error (by decide)

/-- A last name stops the way to a file for want of something only where it is a link's. -/
theorem link_of_place {links : Nat} {here : List FileName} {slashEnd : Bool} {name : FileName}
    (present : (fs.node? here).isSome)
    (h : fs.place links here slashEnd [name] = .error .noEntry) :
    ∃ target, fs.node? (here ++ [name]) = some (.link target) := by
  rw [place] at h
  split at h
  · by_cases there : fs.node? here = some .directory
    · rw [there] at h
      cases h
    · have stopped := h.symm.trans (match_of_no_directory _ _ there)
      rw [barrier_of_isSome present] at stopped
      cases stopped
  · split at h
    · next e failed =>
      cases h
      exact absurd rfl (errs_enter_ne_noEntry present name _ failed)
    · cases h
    · next target link => exact ⟨target, node_of_enter link⟩
    · cases h

theorem open_of_enter {here : List FileName} {name : FileName} {found : Option Node}
    (h : fs.enter here name = .ok found) (bare : found ≠ some .directory) :
    fs.Open (here ++ [name]) := by
  by_cases there : fs.node? here = some .directory
  · refine ⟨by simp, by simpa using there, ?_⟩
    rw [node_of_enter h]
    exact bare
  · rw [enter_of_no_directory there] at h
    cases h

theorem open_of_place {links : Nat} {here names place : List FileName} {slashEnd : Bool}
    (h : fs.place links here slashEnd names = .ok place) : fs.Open place := by
  fun_induction fs.place links here slashEnd names with
  | case8 links here slashEnd name plain found noDirectory noLink entered =>
    cases h
    exact open_of_enter entered fun same => noDirectory (same ▸ rfl)
  | case7 _ _ _ _ _ _ _ ih | case9 _ _ _ _ _ _ _ _ ih | case14 _ _ _ _ _ _ _ _ _ ih => exact ih h
  | case15 _ _ _ _ _ _ _ _ _ _ ih => exact ih h
  | case1 | case2 | case3 | case4 | case5 | case6 | case10 | case11 | case12 | case13 => cases h

/-- What is written is there, and nothing else is changed. -/
theorem node?_of_writeFile {path content : List UInt8} {files : FileSystem}
    (h : fs.writeFile path content = .ok files) :
    ∃ place, fs.Open place ∧ ∀ other, files.node? other =
      if other = place then some (.file content) else fs.node? other := by
  cases usable : checkPath path with
  | error e =>
    rw [writeFile, usable] at h
    cases h
  | ok _ =>
    rw [writeFile, usable] at h
    cases found : fs.place maxLinks (fs.startOf path) (hasSlashEnd path) (names path) with
    | error e =>
      rw [found] at h
      cases h
    | ok place =>
      rw [found] at h
      cases h
      have fits := open_of_place found
      exact ⟨place, fits, node?_offer fits (.file content)⟩

def pathOf (absolute : Bool) (names : List FileName) : List UInt8 :=
  (if absolute then [slash] else []) ++ joined [slash] names

def Apart (names : List FileName) : Prop := ∀ name ∈ names, name ≠ [] ∧ slash ∉ name

theorem apart_names (path : List UInt8) : Apart (names path) := by
  intro name inside
  obtain ⟨piece, filled⟩ := List.mem_filter.mp inside
  exact ⟨by simpa using filled, not_mem_pieces slash path name piece⟩

theorem names_joined {ms : List FileName} (h : Apart ms) : names (joined [slash] ms) = ms := by
  by_cases none : ms = []
  · subst none
    rfl
  · rw [names, pieces_joined none fun m hm => (h m hm).2, List.filter_eq_self]
    exact fun m hm => by simpa using (h m hm).1

theorem names_slash (path : List UInt8) : names (slash :: path) = names path := by
  simp [names, pieces]

theorem names_pathOf {ms : List FileName} (h : Apart ms) (absolute : Bool) :
    names (pathOf absolute ms) = ms := by
  cases absolute with
  | true => exact (names_slash _).trans (names_joined h)
  | false => exact names_joined h

theorem isAbsolute_pathOf {ms : List FileName} (h : Apart ms) {absolute : Bool}
    (filled : absolute = false → ms ≠ []) : isAbsolute (pathOf absolute ms) = absolute := by
  cases absolute with
  | true => rfl
  | false =>
    obtain ⟨m, more, rfl⟩ := List.exists_cons_of_ne_nil (filled rfl)
    obtain ⟨nonempty, apart⟩ := h m (by simp)
    obtain ⟨b, bs, rfl⟩ := List.exists_cons_of_ne_nil nonempty
    have first : (joined [slash] ((b :: bs) :: more)).head? = some b := head?_joined rfl more
    have other : b ≠ slash := fun same => apart (by simp [same])
    show ((joined [slash] ((b :: bs) :: more)).head? == some slash) = false
    rw [first]
    simpa using other

theorem getLast?_joined {ms : List FileName} {m : FileName} (filled : m ≠ []) :
    (joined [slash] (ms ++ [m])).getLast? = m.getLast? := by
  induction ms with
  | nil => rfl
  | cons first ms ih =>
    obtain ⟨next, more, same⟩ : ∃ next more, ms ++ [m] = next :: more :=
      List.exists_cons_of_ne_nil (by simp)
    rw [List.cons_append, same, joined, ← same, List.getLast?_append, ih]
    · cases last : m.getLast? with
      | none => exact absurd (List.getLast?_eq_none_iff.mp last) filled
      | some c => rfl
    · simp

theorem hasSlashEnd_pathOf {ms : List FileName} (h : Apart ms) (filled : ms ≠ [])
    (absolute : Bool) : hasSlashEnd (pathOf absolute ms) = false := by
  obtain ⟨front, m, rfl⟩ : ∃ front m, ms = front ++ [m] :=
    ⟨_, _, (List.dropLast_concat_getLast filled).symm⟩
  obtain ⟨nonempty, apart⟩ := h m (by simp)
  have last : (pathOf absolute (front ++ [m])).getLast? = m.getLast? := by
    rw [pathOf, List.getLast?_append, getLast?_joined nonempty]
    cases ended : m.getLast? with
    | none => exact absurd (List.getLast?_eq_none_iff.mp ended) nonempty
    | some c => rfl
  rw [hasSlashEnd, last, beq_eq_false_iff_ne]
  exact fun same => apart (List.mem_of_getLast? same)

theorem joined_sublist {ms ps : List FileName} (h : ms.Sublist ps) :
    (joined [slash] ms).Sublist (joined [slash] ps) := by
  have more (p q : FileName) (qs : List FileName) :
      joined [slash] (p :: q :: qs) = p ++ ([slash] ++ joined [slash] (q :: qs)) :=
    List.append_assoc ..
  induction h with
  | slnil => exact .slnil
  | @cons ms ps p h ih =>
    cases ps with
    | nil => simp [List.sublist_nil.mp h, joined]
    | cons q ps => exact ih.trans (List.sublist_append_right _ _)
  | @cons_cons ms ps p h ih =>
    cases ps with
    | nil => simp [List.sublist_nil.mp h]
    | cons q ps =>
      rw [more]
      cases ms with
      | nil => exact List.sublist_append_left _ _
      | cons m ms =>
        rw [more]
        exact (ih.append_left _).append_left _

theorem pathOf_sublist {path : List UInt8} {ms : List FileName} (h : ms.Sublist (names path)) :
    (pathOf (isAbsolute path) ms).Sublist path := by
  have inside {rest : List UInt8} (h : ms.Sublist (names rest)) :
      (joined [slash] ms).Sublist rest := by
    have all := joined_sublist (h.trans List.filter_sublist)
    rwa [joined_pieces] at all
  cases path with
  | nil => exact inside h
  | cons b rest =>
    by_cases first : b = slash
    · subst first
      rw [names_slash] at h
      exact (inside h).cons_cons slash
    · have relative : isAbsolute (b :: rest) = false := by simpa [isAbsolute] using first
      rw [relative]
      exact inside h

theorem checkPath_eq_ok_iff {path : List UInt8} :
    checkPath path = .ok () ↔ 0 ∉ path ∧ path ≠ [] ∧ path.length ≤ maxPath := by
  unfold checkPath
  split_ifs with nul none fits <;> simp_all

theorem eq_nil_of_checkPath {path : List UInt8} (h : checkPath path = .error .noEntry) :
    path = [] := by
  unfold checkPath at h
  split_ifs at h with nul none fits
  · exact absurd (Except.error.inj h) (by decide)
  · simpa using none
  · exact absurd (Except.error.inj h) (by decide)

theorem locate_pathOf {path : List UInt8} {ms : List FileName} (h : ms.Sublist (names path))
    (usable : checkPath path = .ok ()) (filled : isAbsolute path = false → ms ≠ []) :
    fs.locate (pathOf (isAbsolute path) ms) = fs.walk maxLinks (fs.startOf path) ms := by
  have short := pathOf_sublist h
  have apart : Apart ms := fun m hm => apart_names path m (h.mem hm)
  have fine : checkPath (pathOf (isAbsolute path) ms) = .ok () := by
    obtain ⟨clear, -, fits⟩ := checkPath_eq_ok_iff.mp usable
    refine checkPath_eq_ok_iff.mpr ⟨fun nul => clear (short.mem nul), fun none => ?_,
      Nat.le_trans short.length_le fits⟩
    have absolute := isAbsolute_pathOf apart filled
    have same := names_pathOf apart (isAbsolute path)
    rw [none] at absolute same
    exact filled absolute.symm same.symm
  have start : fs.startOf (pathOf (isAbsolute path) ms) = fs.startOf path := by
    rw [startOf, isAbsolute_pathOf apart filled, startOf]
  rw [locate, fine, start, steps, names_pathOf apart]
  by_cases root : ms = []
  · -- The path of no names is the root, a slash that asks for a directory.
    have absolute : isAbsolute path = true := by
      cases ended : isAbsolute path with
      | true => rfl
      | false => exact absurd root (filled ended)
    rw [root, absolute, startOf, absolute]
    have here : fs.node? [] = some .directory := rfl
    show fs.walk maxLinks [] [dot] = fs.walk maxLinks [] []
    simp only [walk, here, true_or, if_true]
  · rw [hasSlashEnd_pathOf apart root]
    rfl

end HopProbe.FileSystem
