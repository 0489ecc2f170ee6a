import HopProbe.Proofs.Text.Order
import HopProbe.Proofs.Verbs.Change
import HopProbe.Proofs.Verbs.Counters
import Mathlib.Data.String.Basic

/-!
# Reports of network interfaces

The entries of the interfaces come in any order, an interface having one entry
for each of its addresses. A report has one block for each name, with what all
entries of this name say and nothing of any other.
-/

set_option autoImplicit false

namespace HopProbe.Verbs.Info
open HopProbe.Text

/-- The addresses of a name, one for each of its entries that has one to show, in their order. -/
inductive AddressesOf (name : String) : List Interface → List IpAddress → Prop
  | none : AddressesOf name [] []
  | shown {e : Interface} {a : IpAddress} {entries : List Interface} {addresses : List IpAddress}
    (named : e.name = name) (there : e.address = some (.ip a))
    (rest : AddressesOf name entries addresses) :
    AddressesOf name (e :: entries) (a :: addresses)
  | silent {e : Interface} {entries : List Interface} {addresses : List IpAddress}
    (textless : e.address = Option.none ∨ e.address = some .other)
    (rest : AddressesOf name entries addresses) :
    AddressesOf name (e :: entries) addresses
  | other {e : Interface} {entries : List Interface} {addresses : List IpAddress}
    (apart : e.name ≠ name) (rest : AddressesOf name entries addresses) :
    AddressesOf name (e :: entries) addresses

inductive Counted (table : List (String × Counters)) (name : String) : List String → Prop
  | known {c : Counters} (last : LastOf Prod.fst name table (name, c)) : Counted table name
    ["  RX: " ++ toString c.received.bytes ++ " bytes, " ++ toString c.received.packets ++
        " packets, " ++ toString c.received.errors ++ " errors, " ++
        toString c.received.dropped ++ " dropped",
      "  TX: " ++ toString c.sent.bytes ++ " bytes, " ++ toString c.sent.packets ++
        " packets, " ++ toString c.sent.errors ++ " errors, " ++
        toString c.sent.dropped ++ " dropped"]
  | unknown (missing : ∀ row ∈ table, row.1 ≠ name) : Counted table name []

inductive Describes (entries : List Interface) (table : List (String × Counters)) (name : String) :
    List String → Prop
  | block {e : Interface} {addresses : List IpAddress} {traffic : List String}
    (first : FirstOf Interface.name name entries e) (listed : AddressesOf name entries addresses)
    (counted : Counted table name traffic) : Describes entries table name
      (["INTERFACE: " ++ name, "  FLAGS: " ++ e.flags] ++
        addresses.map (fun a => "  ADDRESS: " ++ a.text) ++ traffic)

/-- Entries in another order, where entries of one name stay in theirs. -/
inductive Reordered : List Interface → List Interface → Prop
  | nil : Reordered [] []
  | cons {xs ys : List Interface} (e : Interface) (rest : Reordered xs ys) :
    Reordered (e :: xs) (e :: ys)
  | swap {d e : Interface} (apart : d.name ≠ e.name) (rest : List Interface) :
    Reordered (d :: e :: rest) (e :: d :: rest)
  | trans {xs ys zs : List Interface} (first : Reordered xs ys) (second : Reordered ys zs) :
    Reordered xs zs

theorem addressesOf_filter (name : String) (entries : List Interface) :
    AddressesOf name entries
      ((entries.filter fun i => i.name == name).filterMap Interface.ip?) := by
  induction entries with
  | nil => exact .none
  | cons e entries ih =>
    by_cases named : e.name = name
    · rw [List.filter_cons_of_pos (by simpa using named), List.filterMap_cons, Interface.ip?]
      cases there : e.address with
      | none => exact .silent (.inl there) ih
      | some address =>
        cases address with
        | ip a => exact .shown named there ih
        | other => exact .silent (.inr there) ih
    · rw [List.filter_cons_of_neg (by simpa using named)]
      exact .other named ih

theorem counted_counterLines (table : List (String × Counters)) (name : String) :
    Counted table name (counterLines (Counters.find? table name)) := by
  cases found : Counters.find? table name with
  | some c => exact .known (Counters.find?_eq_some_iff.mp found)
  | none =>
    refine .unknown fun row inside same => ?_
    obtain ⟨⟨n, c⟩, last⟩ := exists_lastOf_iff.mpr ⟨row, inside, same⟩
    obtain rfl : n = name := last.keyed
    rw [Counters.find?_eq_some_iff.mpr last] at found
    cases found

theorem describes_block {entries : List Interface} {name : String}
    (named : ∃ e ∈ entries, e.name = name) (table : List (String × Counters)) :
    Describes entries table name
      (block table name (entries.filter fun i => i.name == name)) := by
  obtain ⟨e, found⟩ : ∃ e, entries.find? (fun i => i.name == name) = some e := by
    rw [← Option.isSome_iff_exists, List.find?_isSome]
    simpa using named
  have flags : ((entries.filter fun i => i.name == name).head?.map Interface.flags).getD "" =
      e.flags := by
    rw [List.head?_filter, found]
    rfl
  rw [block, flags]
  exact .block (find?_eq_some_iff_firstOf.mp found) (addressesOf_filter name entries)
    (counted_counterLines table name)

theorem mem_interfaceNames {entries : List Interface} {name : String} :
    name ∈ interfaceNames entries ↔ ∃ e ∈ entries, e.name = name := by
  rw [interfaceNames, mem_ascending, List.mem_map]

theorem report_described (entries : List Interface) (table : List (String × Counters)) :
    ∃ names blocks,
      names.Pairwise (fun a b : String => Utf8.bytes a < Utf8.bytes b) ∧
      (∀ name, name ∈ names ↔ ∃ e ∈ entries, e.name = name) ∧
      List.Forall₂ (Describes entries table) names blocks ∧
      networkReport entries table = String.intercalate "\n" blocks.flatten := by
  refine ⟨interfaceNames entries, (interfaceNames entries).map fun name =>
    block table name (entries.filter fun i => i.name == name), ascending_ordered _,
    fun _ => mem_interfaceNames, ?_, rfl⟩
  rw [List.forall₂_map_right_iff]
  exact List.forall₂_same.mpr fun name there => describes_block (mem_interfaceNames.mp there) table

theorem filter_of_reordered {xs ys : List Interface} (h : Reordered xs ys) (name : String) :
    (ys.filter fun i => i.name == name) = xs.filter fun i => i.name == name := by
  induction h with
  | nil => rfl
  | cons e _ ih => rw [List.filter_cons, List.filter_cons, ih]
  | @swap d e apart rest =>
    by_cases first : d.name = name
    · have second : e.name ≠ name := fun same => apart (first.trans same.symm)
      simp [first, second]
    · simp [List.filter_cons, first]
  | trans _ _ first second => exact second.trans first

theorem Reordered.perm {xs ys : List Interface} (h : Reordered xs ys) : xs.Perm ys := by
  induction h with
  | nil => exact .nil
  | cons e _ ih => exact ih.cons e
  | swap _ rest => exact .swap _ _ rest
  | trans _ _ first second => exact first.trans second

theorem interfaceNames_of_reordered {entries other : List Interface}
    (h : Reordered entries other) : interfaceNames other = interfaceNames entries := by
  exact ascending_congr fun name => ((h.perm.map Interface.name).mem_iff).symm

theorem networkReport_of_reordered {entries other : List Interface} (h : Reordered entries other)
    (table : List (String × Counters)) : networkReport other table = networkReport entries table := by
  simp only [networkReport, interfaceNames_of_reordered h, filter_of_reordered h]

/-- The counters of a machine; of one whose table cannot be read there are none. -/
def countersOf (machine : Machine) : List (String × Counters) :=
  (machine.counters.map Counters.ofTable).getD []

theorem execute_network {w : World} {entries : List Interface}
    (there : w.machine.interfaces = .ok entries) (more : List String) (context : Context) :
    (builtinHandler .info).execute ("NETWORK" :: more) context w =
      (.finished (networkReport entries (countersOf w.machine)), w.record .machine) := by
  have asked : phases.read ("NETWORK" :: more) = .ok .network := rfl
  have ran : (perform .network context).run.run w =
      ((Effect.ofExcept systemFault w.machine.interfaces >>= fun found =>
        pure (networkReport found (countersOf w.machine)) : Effect String).run.run
          (w.record .machine)) := rfl
  refine (phases.execute_of_read_ok asked context w).trans ?_
  rw [show phases.perform = perform from rfl, Effect.outcome, ran, there, Effect.run_bind,
    Effect.run_ofExcept_ok]
  rfl

/-- Each name has one block in a report, in the order of the bytes of the names: the flags of its
first entry, the addresses of all its entries, and its counters if it has any. How entries of
different names are mixed makes no difference. -/
theorem network_reported (entries : List Interface) (table : List (String × Counters)) :
    (∃ names blocks,
      names.Pairwise (fun a b : String => Utf8.bytes a < Utf8.bytes b) ∧
      (∀ name, name ∈ names ↔ ∃ e ∈ entries, e.name = name) ∧
      List.Forall₂ (Describes entries table) names blocks ∧
      networkReport entries table = String.intercalate "\n" blocks.flatten) ∧
    (∀ other, Reordered entries other → networkReport other table = networkReport entries table) ∧
    ∀ (more : List String) (context : Context) (w : World),
      w.machine.interfaces = .ok entries → countersOf w.machine = table →
      (builtinHandler .info).execute ("NETWORK" :: more) context w =
        (.finished (networkReport entries table), w.record .machine) := by
  refine ⟨report_described entries table, fun _ h => networkReport_of_reordered h table,
    fun more context w there counted => ?_⟩
  rw [execute_network there, counted]

theorem network_reported_of_mixed_entries :
    let up : Interface := ⟨"eth0", "UP", some .other⟩
    let lo : Interface := ⟨"lo", "LOOPBACK", some (.ip (.v4 127 0 0 1))⟩
    let eth : Interface := ⟨"eth0", "RUNNING", some (.ip (.v4 10 0 0 7))⟩
    let world (entries : List Interface) : World :=
      { World.still with machine := ⟨.ok [], .ok entries, none⟩ }
    let context : Context := ⟨[], .empty⟩
    let text := "INTERFACE: eth0\n  FLAGS: UP\n  ADDRESS: 10.0.0.7\n" ++
      "INTERFACE: lo\n  FLAGS: LOOPBACK\n  ADDRESS: 127.0.0.1"
    Reordered [up, lo, eth] [lo, up, eth] ∧
      ((builtinHandler .info).execute ["NETWORK"] context (world [up, lo, eth])).1 =
        .finished text ∧
      ((builtinHandler .info).execute ["NETWORK"] context (world [lo, up, eth])).1 =
        .finished text := by
  intro up lo eth world context text
  have mixed : Reordered [up, lo, eth] [lo, up, eth] := .swap (by decide) _
  have names : interfaceNames [up, lo, eth] = ["eth0", "lo"] :=
    List.mergeSort_of_pairwise (by decide)
  have report : networkReport [up, lo, eth] [] = text := by
    rw [networkReport, names]
    decide +kernel
  obtain ⟨-, same, ran⟩ := network_reported [up, lo, eth] []
  obtain ⟨-, -, other⟩ := network_reported [lo, up, eth] []
  refine ⟨mixed, ?_, ?_⟩
  · rw [ran [] context (world [up, lo, eth]) rfl rfl, report]
  · rw [other [] context (world [lo, up, eth]) rfl rfl, same _ mixed, report]

end HopProbe.Verbs.Info
