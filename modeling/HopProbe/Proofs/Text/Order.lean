import HopProbe.Proofs.Text.Utf8
import HopProbe.Text.Keyed
import Mathlib.Data.List.Nodup
import Mathlib.Data.String.Basic

/-!
# The order of texts

Texts are in the order of their bytes: of two characters the one with the
smaller number has the smaller bytes, and neither goes on where the other ends.
What is sorted by a linear order does not depend on the order it came in.
-/

set_option autoImplicit false

namespace HopProbe.Text

namespace Utf8

theorem cons_lt_cons {m n : Nat} {us vs : List UInt8} (first : m ≤ n) (small : n < 256)
    (behind : m = n → us < vs) : UInt8.ofNat m :: us < UInt8.ofNat n :: vs := by
  rw [List.cons_lt_cons_iff]
  rcases Nat.lt_or_eq_of_le first with less | same
  · refine .inl ?_
    rw [UInt8.lt_iff_toNat_lt, toNat_ofNat_of_lt small, toNat_ofNat_of_lt (by omega)]
    exact less
  · exact .inr ⟨congrArg UInt8.ofNat same, behind same⟩

/-- The bytes of one character are before those of another by a byte that both have. -/
theorem encodeChar_append_lt {c d : Char} (h : c < d) (us vs : List UInt8) :
    encodeChar c ++ us < encodeChar d ++ vs := by
  have less : c.toNat < d.toNat := h
  have range := char_range d
  simp only [encodeChar]
  -- What has more bytes begins with a greater one, and the first bytes agree only in one length.
  split_ifs <;> simp only [List.cons_append, List.nil_append] <;>
    refine cons_lt_cons (by omega) (by omega) fun lead => ?_
  any_goals omega
  case pos two =>
    exact cons_lt_cons (by omega) (by omega) fun _ => by omega
  case pos three =>
    exact cons_lt_cons (by omega) (by omega) fun _ => cons_lt_cons (by omega) (by omega) fun _ =>
      by omega
  case neg four =>
    exact cons_lt_cons (by omega) (by omega) fun _ => cons_lt_cons (by omega) (by omega) fun _ =>
      cons_lt_cons (by omega) (by omega) fun _ => by omega

theorem encode_lt_of_lt {cs ds : List Char} (h : cs < ds) : encode cs < encode ds := by
  induction h with
  | nil =>
    rename_i d ds
    obtain ⟨b, bs, filled⟩ := List.exists_cons_of_ne_nil (encodeChar_ne_nil d)
    rw [encode, encode, List.flatMap_nil, List.flatMap_cons, filled]
    exact List.nil_lt_cons _ _
  | rel less => exact encodeChar_append_lt less _ _
  | cons same ih => exact List.append_left_lt ih

theorem encode_lt_iff {cs ds : List Char} : encode cs < encode ds ↔ cs < ds := by
  refine ⟨fun h => ?_, encode_lt_of_lt⟩
  by_contra other
  rcases List.le_iff_lt_or_eq.mp (List.not_lt.mp other) with greater | rfl
  · exact List.lt_asymm h (encode_lt_of_lt greater)
  · exact List.lt_irrefl _ h

theorem bytes_lt_iff {s t : String} : bytes s < bytes t ↔ s < t :=
  encode_lt_iff

theorem bytes_le_iff {s t : String} : bytes s ≤ bytes t ↔ s ≤ t := by
  rw [← List.not_lt, bytes_lt_iff, String.not_lt]

end Utf8

section
variable {α : Type}

theorem nodup_eraseDups [BEq α] [LawfulBEq α] (xs : List α) : xs.eraseDups.Nodup := by
  induction h : xs.length using Nat.strongRecOn generalizing xs with
  | ind n ih =>
    cases xs with
    | nil => exact List.nodup_nil
    | cons x xs =>
      rw [List.eraseDups_cons, List.nodup_cons]
      have shorter := List.length_filter_le (fun y => !y == x) xs
      exact ⟨by simp, ih _ (by rw [List.length_cons] at h; omega) _ rfl⟩

theorem mergeSort_eq_of_perm {le : α → α → Bool}
    (trans : ∀ a b c, le a b = true → le b c = true → le a c = true)
    (total : ∀ a b, (le a b || le b a) = true)
    (antisymm : ∀ a b, le a b = true → le b a = true → a = b) {xs ys : List α} (h : xs.Perm ys) :
    xs.mergeSort le = ys.mergeSort le :=
  List.Perm.eq_of_pairwise (fun a b _ _ => antisymm a b) (List.pairwise_mergeSort trans total xs)
    (List.pairwise_mergeSort trans total ys)
    (((List.mergeSort_perm xs le).trans h).trans (List.mergeSort_perm ys le).symm)

/-- What is sorted by texts of which no two are the same stands in the order of their bytes. -/
theorem mergeSort_ordered {key : α → String} {xs : List α} (distinct : (xs.map key).Nodup) :
    (xs.mergeSort fun a b => decide (key a ≤ key b)).Pairwise fun a b =>
      Utf8.bytes (key a) < Utf8.bytes (key b) := by
  have trans (a b c : α) (h : decide (key a ≤ key b) = true) (h' : decide (key b ≤ key c) = true) :
      decide (key a ≤ key c) = true :=
    decide_eq_true ((of_decide_eq_true h).trans (of_decide_eq_true h'))
  have total (a b : α) : (decide (key a ≤ key b) || decide (key b ≤ key a)) = true := by
    simpa using le_total (key a) (key b)
  have apart : (xs.mergeSort fun a b => decide (key a ≤ key b)).Pairwise fun a b => key a ≠ key b :=
    List.pairwise_map.mp (((List.mergeSort_perm _ _).map key).nodup_iff.mpr distinct)
  refine ((List.pairwise_mergeSort trans total _).and apart).imp fun {a b} h => ?_
  exact Utf8.bytes_lt_iff.mpr (lt_of_le_of_ne (of_decide_eq_true h.1) h.2)

end

theorem mem_ascending {keys : List String} {key : String} : key ∈ ascending keys ↔ key ∈ keys := by
  rw [ascending, List.mem_mergeSort, List.mem_eraseDups]

theorem ascending_ordered (keys : List String) :
    (ascending keys).Pairwise fun a b => Utf8.bytes a < Utf8.bytes b := by
  refine @mergeSort_ordered String id _ ?_
  rw [List.map_id]
  exact nodup_eraseDups _

theorem ascending_nodup (keys : List String) : (ascending keys).Nodup :=
  (List.mergeSort_perm _ _).nodup_iff.mpr (nodup_eraseDups keys)

theorem ascending_congr {keys others : List String} (h : ∀ key, key ∈ keys ↔ key ∈ others) :
    ascending keys = ascending others := by
  have alike : (ascending keys).Perm (ascending others) := by
    rw [List.perm_ext_iff_of_nodup (ascending_nodup keys) (ascending_nodup others)]
    intro key
    rw [mem_ascending, mem_ascending, h]
  exact alike.eq_of_pairwise (fun a b _ _ less greater => absurd greater (List.lt_asymm less))
    (ascending_ordered keys) (ascending_ordered others)

end HopProbe.Text
