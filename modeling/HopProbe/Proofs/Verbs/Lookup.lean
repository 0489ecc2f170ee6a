import HopProbe.Proofs.Net.IpAddress
import HopProbe.Proofs.Run.Block
import HopProbe.Proofs.Verbs.Change
import Mathlib.Data.List.Nodup

/-!
# Looking up the addresses of a host

The resolver may give an address more than once, with the same port or with
another. A lookup shows each address where it comes first, whatever the ports,
and what the resolver repeats is not seen.
-/

set_option autoImplicit false

namespace HopProbe.Verbs.IpLookup
open HopProbe.Text

theorem mem_distinct {a : IpAddress} {as : List IpAddress} : a ∈ distinct as ↔ a ∈ as := by
  induction as with
  | nil => rfl
  | cons b as ih =>
    by_cases same : a = b
    · simp [distinct, same]
    · simp [distinct, same, ih]

/-- Earlier in the list is earlier among the first occurrences. -/
theorem distinct_ordered (as : List IpAddress) :
    (distinct as).Pairwise fun a b => as.idxOf a < as.idxOf b := by
  induction as with
  | nil => exact .nil
  | cons c as ih =>
    have behind {a : IpAddress} (h : a ∈ (distinct as).filter (· != c)) :
        (c :: as).idxOf a = as.idxOf a + 1 := by
      have other : c ≠ a := (bne_iff_ne.mp (List.mem_filter.mp h).2).symm
      exact List.idxOf_cons_ne as other
    rw [distinct, List.pairwise_cons]
    refine ⟨fun a ha => ?_, ?_⟩
    · rw [behind ha, List.idxOf_cons_self]
      exact Nat.succ_pos _
    · refine (ih.filter _).imp_of_mem fun {a b} ha hb less => ?_
      rw [behind ha, behind hb]
      exact Nat.succ_lt_succ less

theorem distinct_append (as bs : List IpAddress) :
    distinct (as ++ bs) = distinct as ++ (distinct bs).filter (· ∉ as) := by
  induction as with
  | nil => simp [distinct]
  | cons a as ih =>
    have new (b : IpAddress) : (b != a && decide (b ∉ as)) = decide (b ∉ a :: as) := by
      by_cases same : b = a <;> simp [same]
    simp only [List.cons_append, distinct, ih, List.filter_append, List.filter_filter, new]

theorem distinct_append_of_subset {as bs : List IpAddress} (h : bs ⊆ as) :
    distinct (as ++ bs) = distinct as := by
  rw [distinct_append, List.filter_eq_nil_iff.mpr, List.append_nil]
  intro b hb
  simpa using h (mem_distinct.mp hb)

def lineOf (a : IpAddress) : String := "IP: " ++ a.text

theorem lineOf_injective : Function.Injective lineOf := fun _ _ same =>
  IpAddress.text_injective ((String.append_right_inj _).mp same)

theorem unbroken_lineOf (a : IpAddress) : Unbroken (lineOf a) := by
  refine unbroken_of_printable ?_
  rw [lineOf, String.toList_append]
  exact printable_append.mpr ⟨by decide, a.printable_text⟩

theorem printed_report (found : List SocketAddress) (line : String) :
    Step.printed ⟨line, .success (report found)⟩ =
      (distinct (found.map SocketAddress.ip)).map fun a => (lineOf a).toList := by
  have filled (a : IpAddress) : (lineOf a).toList.isEmpty = false := by
    rw [lineOf, String.toList_append]
    rfl
  have unbroken : ∀ row ∈ (distinct (found.map SocketAddress.ip)).map lineOf, Unbroken row := by
    intro row shown
    obtain ⟨a, -, rfl⟩ := List.mem_map.mp shown
    exact unbroken_lineOf a
  rw [Step.printed_of_lines rfl unbroken, List.map_map]
  refine dropEndWhile_eq_self fun row shown => ?_
  obtain ⟨a, -, rfl⟩ := List.mem_map.mp shown
  exact filled a

theorem execute_found {w : World} {host : String} {found : List SocketAddress}
    (there : w.addresses host = .ok found) (more : List String) (context : Context) :
    (builtinHandler .iplookup).execute (host :: more) context w =
      (.finished (report found), w.record (.lookup host)) := by
  have asked : phases.read (host :: more) = .ok host := rfl
  have ran : (perform host context).run.run w =
      ((Effect.ofExcept (fun e => Fault.dns (host ++ ": " ++ e.message)) (w.addresses host) >>=
        fun found => pure (report found) : Effect String).run.run (w.record (.lookup host))) := rfl
  refine (phases.execute_of_read_ok asked context w).trans ?_
  rw [show phases.perform = perform from rfl, Effect.outcome, ran, there, Effect.run_bind,
    Effect.run_ofExcept_ok]
  rfl

/-- A lookup prints one row for each address that the resolver found and no other, in the order in
which the addresses first occur. An address is the same with any port, and addresses that come again
behind the others change nothing. -/
theorem addresses_printed {w : World} {host : String} {found : List SocketAddress}
    (there : w.addresses host = .ok found) (more : List String) (context : Context) :
    ∃ (shown : List IpAddress) (text : String),
      (builtinHandler .iplookup).execute (host :: more) context w =
        (.finished text, w.record (.lookup host)) ∧
      (∀ line, Step.printed ⟨line, .success text⟩ = shown.map fun a => (lineOf a).toList) ∧
      (shown.map lineOf).Nodup ∧
      (∀ a, a ∈ shown ↔ ∃ s ∈ found, s.ip = a) ∧
      (shown.Pairwise fun a b =>
        (found.map SocketAddress.ip).idxOf a < (found.map SocketAddress.ip).idxOf b) ∧
      ∀ (other : World) (name : String) (again : List SocketAddress) (rest : List String)
        (around : Context), (∀ s ∈ again, ∃ t ∈ found, t.ip = s.ip) →
        other.addresses name = .ok (found ++ again) →
        ((builtinHandler .iplookup).execute (name :: rest) around other).1 = .finished text := by
  have ordered := distinct_ordered (found.map SocketAddress.ip)
  refine ⟨distinct (found.map SocketAddress.ip), report found, execute_found there more context,
    printed_report found, ?_, fun a => ?_, ordered,
    fun other name again rest around known longer => ?_⟩
  · refine List.Nodup.map lineOf_injective (ordered.imp fun {a b} less => ?_)
    rintro rfl
    exact Nat.lt_irrefl _ less
  · rw [mem_distinct, List.mem_map]
  · have repeated : again.map SocketAddress.ip ⊆ found.map SocketAddress.ip := by
      intro a ha
      obtain ⟨s, hs, rfl⟩ := List.mem_map.mp ha
      exact List.mem_map.mpr (known s hs)
    rw [execute_found longer, report, report, List.map_append, distinct_append_of_subset repeated]

theorem addresses_printed_of_repeated_address :
    let a : IpAddress := .v6 0x2001 0xDB8 0 0 0 0 0 1
    let found : List SocketAddress :=
      [⟨a, 80⟩, ⟨.v4 1 2 3 4, 0⟩, ⟨.v6 0 0 0 0 0 0xFFFF 0x102 0x304, 0⟩, ⟨a, 443⟩]
    let again : List SocketAddress := [⟨.v4 1 2 3 4, 9⟩, ⟨a, 80⟩]
    let w : World := { World.still with hosts := [("peer", found), ("twin", found ++ again)] }
    let context : Context := ⟨[], .empty⟩
    let text := "IP: 2001:db8::1\nIP: 1.2.3.4\nIP: ::ffff:1.2.3.4"
    IpAddress.parse? "2001:DB8:0:0:0:0:0:1" = some a ∧ IpAddress.parse? "2001:db8::1" = some a ∧
      w.addresses "peer" = .ok found ∧ w.addresses "twin" = .ok (found ++ again) ∧
      ((builtinHandler .iplookup).execute ["peer"] context w).1 = .finished text ∧
      ((builtinHandler .iplookup).execute ["twin"] context w).1 = .finished text := by
  intro a found again w context text
  have there : w.addresses "peer" = .ok found := rfl
  have longer : w.addresses "twin" = .ok (found ++ again) := rfl
  have known : ∀ s ∈ again, ∃ t ∈ found, t.ip = s.ip := by decide
  have listed : report found = text := by decide +kernel
  obtain ⟨shown, printed, ran, -, -, -, -, repeated⟩ := addresses_printed there [] context
  have same : printed = text := by
    rw [execute_found there [] context, listed] at ran
    exact (Attempt.finished.inj (congrArg Prod.fst ran)).symm
  refine ⟨by decide +kernel, by decide +kernel, there, longer, ?_, ?_⟩
  · rw [ran, same]
  · rw [repeated w "twin" again [] context known longer, same]

end HopProbe.Verbs.IpLookup
