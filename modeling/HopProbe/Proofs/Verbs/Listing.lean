import HopProbe.Proofs.Text.Order
import HopProbe.Proofs.Text.Printable
import HopProbe.Proofs.Verbs.Files
import Mathlib.Data.List.Forall2
import Mathlib.Data.Prod.Lex
import Mathlib.Data.String.Basic

/-!
# Listings of directories

A listing has one line for each entry of a directory, in the order of the
names as they are shown. Names that are shown alike are in the order of their
lines, so that no listing tells in which order the system gave the entries.
-/

set_option autoImplicit false

namespace HopProbe.Verbs.File
open HopProbe.Text FileSystem

def shownName (e : FileSystem.Entry) : String := Utf8.textLossy e.name

/-- The line of an entry. What is not a directory has a size, a link that of its target's text. -/
inductive Shows : FileSystem.Entry → String → Prop
  | directory (name : FileName) : Shows ⟨name, .directory⟩ ("DIR: " ++ Utf8.textLossy name)
  | file (name : FileName) (content : List UInt8) : Shows ⟨name, .file content⟩
    ("FILE: " ++ Utf8.textLossy name ++ " (" ++ toString content.length ++ " bytes)")
  | link (name : FileName) (target : List UInt8) : Shows ⟨name, .link target⟩
    ("FILE: " ++ Utf8.textLossy name ++ " (" ++ toString target.length ++ " bytes)")

theorem shows_entryLine (e : FileSystem.Entry) : Shows e (entryLine e).2 := by
  obtain ⟨name, node⟩ := e
  cases node with
  | file content => exact .file name content
  | directory => exact .directory name
  | link target => exact .link name target

theorem entryLine_fst (e : FileSystem.Entry) : (entryLine e).1 = shownName e := by
  obtain ⟨name, node⟩ := e
  cases node <;> rfl

theorem Shows.oneLine {e : FileSystem.Entry} {line : String} (h : Shows e line)
    (named : OneLine (shownName e)) : OneLine line := by
  have sized (n : Nat) : OneLine (toString n) := (printable_nat n).oneLine
  cases h with
  | directory name => exact oneLine_append.mpr ⟨by decide, named⟩
  | _ =>
    simp only [oneLine_append]
    exact ⟨⟨⟨⟨by decide, named⟩, by decide⟩, sized _⟩, by decide⟩

theorem precedes_iff {a b : String × String} : precedes a b = true ↔ toLex a ≤ toLex b := by
  rw [Prod.Lex.toLex_le_toLex, precedes]
  by_cases same : a.1 = b.1
  · simp [same]
  · simp [same, le_iff_lt_or_eq]

theorem precedes_trans (a b c : String × String) (h : precedes a b = true)
    (h' : precedes b c = true) : precedes a c = true :=
  precedes_iff.mpr ((precedes_iff.mp h).trans (precedes_iff.mp h'))

theorem precedes_total (a b : String × String) : (precedes a b || precedes b a) = true := by
  rw [Bool.or_eq_true, precedes_iff, precedes_iff]
  exact le_total _ _

theorem precedes_antisymm (a b : String × String) (h : precedes a b = true)
    (h' : precedes b a = true) : a = b :=
  toLex.injective ((precedes_iff.mp h).antisymm (precedes_iff.mp h'))

def arrange (entries : List FileSystem.Entry) : List FileSystem.Entry :=
  entries.mergeSort fun a b => precedes (entryLine a) (entryLine b)

theorem listing_eq (entries : List FileSystem.Entry) :
    listing entries =
      String.intercalate "\n" ((arrange entries).map fun e => (entryLine e).2) := by
  have moved := List.map_mergeSort (f := entryLine) (s := precedes) (l := entries)
    (r := fun a b => precedes (entryLine a) (entryLine b)) fun _ _ _ _ => rfl
  rw [listing, ← moved, List.map_map]
  rfl

theorem arrange_ordered (entries : List FileSystem.Entry) :
    (arrange entries).Pairwise fun a b =>
      Utf8.bytes (shownName a) ≤ Utf8.bytes (shownName b) := by
  have sorted : (arrange entries).Pairwise fun a b => precedes (entryLine a) (entryLine b) =
      true := List.pairwise_mergeSort
    (fun a b c => precedes_trans (entryLine a) (entryLine b) (entryLine c))
    (fun a b => precedes_total (entryLine a) (entryLine b)) entries
  refine sorted.imp fun {a b} before => ?_
  rw [Utf8.bytes_le_iff, ← entryLine_fst, ← entryLine_fst]
  rcases Prod.Lex.toLex_le_toLex.mp (precedes_iff.mp before) with less | ⟨same, -⟩
  · exact less.le
  · exact same.le

theorem listing_perm {entries other : List FileSystem.Entry} (h : other.Perm entries) :
    listing other = listing entries := by
  rw [listing, listing, mergeSort_eq_of_perm precedes_trans precedes_total precedes_antisymm
    (h.map entryLine)]

theorem execute_list {w : World} {path : String} {entries : List FileSystem.Entry}
    (there : w.files.readDirectory (Utf8.bytes path) = .ok entries) (more : List String)
    (context : Context) :
    (builtinHandler .file).execute ("LIST" :: path :: more) context w =
      (.finished (listing entries), w.record (.file path)) := by
  have read : phases.read ("LIST" :: path :: more) = .ok ⟨.list, path⟩ := rfl
  refine (phases.execute_of_read_ok read context w).trans ?_
  refine (outcome_list path context w).trans ?_
  rw [there]
  rfl

/-- A directory is listed with one line for each of its entries, in the order of the bytes of
their names, and with the same text in whichever order the system gives the entries. -/
theorem directory_listed {w : World} {path : String} {entries : List FileSystem.Entry}
    (there : w.files.readDirectory (Utf8.bytes path) = .ok entries) (more : List String)
    (context : Context) :
    ∃ arranged lines,
      (builtinHandler .file).execute ("LIST" :: path :: more) context w =
        (.finished (String.intercalate "\n" lines), w.record (.file path)) ∧
      arranged.Perm entries ∧ List.Forall₂ Shows arranged lines ∧
      arranged.Pairwise (fun a b => Utf8.bytes (shownName a) ≤ Utf8.bytes (shownName b)) ∧
      (entries ≠ [] → (∀ e ∈ entries, OneLine (shownName e)) →
        pieces '\n' (String.intercalate "\n" lines).toList = lines.map String.toList) ∧
      ∀ (other : World) (place : String) (found : List FileSystem.Entry) (rest : List String)
        (around : Context), other.files.readDirectory (Utf8.bytes place) = .ok found →
        found.Perm entries →
        ((builtinHandler .file).execute ("LIST" :: place :: rest) around other).1 =
          .finished (String.intercalate "\n" lines) := by
  have kept : (arrange entries).Perm entries := List.mergeSort_perm _ _
  refine ⟨arrange entries, (arrange entries).map fun e => (entryLine e).2, ?_, kept, ?_,
    arrange_ordered entries, fun filled named => ?_, ?_⟩
  · rw [execute_list there, listing_eq]
  · rw [List.forall₂_map_right_iff]
    exact List.forall₂_same.mpr fun e _ => shows_entryLine e
  · rw [String.toList_intercalate, ← joined_eq_intercalate]
    refine pieces_joined ?_ ?_
    · intro none
      have nothing : arrange entries = [] := by simpa using none
      exact filled (nothing ▸ kept).nil_eq.symm
    · intro line shown
      obtain ⟨text, there, rfl⟩ := List.mem_map.mp shown
      obtain ⟨e, inside, rfl⟩ := List.mem_map.mp there
      exact (shows_entryLine e).oneLine (named e (kept.mem_iff.mp inside))
  · intro other place found rest around read same
    rw [execute_list read, ← listing_eq, listing_perm same]

theorem directory_listed_of_names_alike :
    let small : List FileName × Node := ([[0xFE]], .file [1])
    let large : List FileName × Node := ([[0xFF]], .file [1, 2])
    let inner : List FileName × Node := ([[0x61]], .directory)
    let world (nodes : List (List FileName × Node)) : World :=
      { World.still with files := nodes.foldl (fun fs (path, node) => fs.offer path node) .bare }
    let context : Context := ⟨[], .empty⟩
    let text := "DIR: a\nFILE: \uFFFD (1 bytes)\nFILE: \uFFFD (2 bytes)"
    ((builtinHandler .file).execute ["LIST", "."] context (world [inner, small, large])).1 =
        .finished text ∧
      ((builtinHandler .file).execute ["LIST", "."] context (world [large, inner, small])).1 =
        .finished text := by
  intro small large inner world context text
  have sorted : (world [inner, small, large]).files.readDirectory (Utf8.bytes ".") =
      .ok [⟨[0x61], .directory⟩, ⟨[0xFE], .file [1]⟩, ⟨[0xFF], .file [1, 2]⟩] :=
    (readDirectory_dot _).trans (congrArg Except.ok (by decide +kernel))
  have mixed : (world [large, inner, small]).files.readDirectory (Utf8.bytes ".") =
      .ok [⟨[0xFF], .file [1, 2]⟩, ⟨[0x61], .directory⟩, ⟨[0xFE], .file [1]⟩] :=
    (readDirectory_dot _).trans (congrArg Except.ok (by decide +kernel))
  have listed : listing [⟨[0x61], .directory⟩, ⟨[0xFE], .file [1]⟩, ⟨[0xFF], .file [1, 2]⟩] =
      text := by
    rw [listing, List.mergeSort_of_pairwise (by decide)]
    rfl
  obtain ⟨arranged, lines, first, -, -, -, -, second⟩ := directory_listed sorted [] context
  have same : String.intercalate "\n" lines = text := by
    rw [execute_list sorted [] context, listed] at first
    exact (Attempt.finished.inj (congrArg Prod.fst first)).symm
  refine ⟨by rw [first, same], ?_⟩
  rw [← same]
  exact second _ "." _ [] context mixed (@List.perm_append_comm _ [_] [_, _])

end HopProbe.Verbs.File
