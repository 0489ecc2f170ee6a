import HopProbe.Proofs.Net.IpAddress
import HopProbe.Proofs.Url.Written
import HopProbe.Url.Parser

/-!
# Reading a host that was written

A host of a scheme that is not special is read back from its text. The text
holds no character that ends the authority or a part of it, and its colons
stand in brackets.
-/

set_option autoImplicit false

namespace HopProbe.Url.Host
open HopProbe.Text

/-- The hosts that are read behind a scheme that is not special. -/
inductive Plain : Host → Prop
  | name (typed : List Char) (allowed : ∀ c ∈ typed, isForbiddenPlain c = false) :
    Plain (.name (String.ofList (Percent.encode Percent.controls typed)))
  | v6 (a b c d e f g h : UInt16) : Plain (.v6 (IpAddress.groups a b c d e f g h))

theorem plain_ok {cs : List Char} {host : Host} (read : plain cs = .ok host) : Plain host := by
  unfold plain at read
  split at read
  · next rest =>
    unfold bracketed ofV6? at read
    split at read
    · split at read
      · next found =>
        cases read
        split at found
        · cases found
          exact .v6 ..
        · cases found
      · cases read
    · cases read
  · split at read
    · cases read
    · next allowed =>
      cases read
      exact .name _ (by simpa using allowed)

theorem controls_stable : Percent.Stable Percent.controls := forall_of_all (by decide)

theorem allowed_of_mem_name {typed : List Char} (allowed : ∀ c ∈ typed, isForbiddenPlain c = false)
    {c : Char} (h : c ∈ Percent.encode Percent.controls typed) :
    isForbiddenPlain c = false ∧ Percent.Allowed Percent.controls c := by
  have marks : ∀ m ∈ Percent.marks, isForbiddenPlain m = false := forall_of_all (by decide)
  refine ⟨?_, Percent.allowed_of_mem_encode controls_stable h⟩
  rcases Percent.mem_encode h with ⟨hm, -⟩ | mark
  · exact allowed c hm
  · exact marks c mark

theorem plain_name {name : List Char} (allowed : ∀ c ∈ name, isForbiddenPlain c = false) :
    plain name = .ok (.name (String.ofList (Percent.encode Percent.controls name))) := by
  unfold plain
  split
  · next rest =>
    have bracket := allowed '[' (by simp)
    contradiction
  · rw [if_neg (by simpa using allowed)]

theorem Plain.read {host : Host} (h : Plain host) : plain host.text.toList = .ok host := by
  cases h with
  | name typed allowed =>
    rw [text, String.toList_ofList, plain_name fun c hc => (allowed_of_mem_name allowed hc).1,
      Percent.encode_encode controls_stable]
  | v6 a b c d e f g h =>
    have back := IpAddress.v6?_compressed_groups a b c d e f g h
    rw [text, String.toList_ofList]
    change bracketed (IpAddress.compressed (IpAddress.groups a b c d e f g h) ++ [']']) = _
    simp [bracketed, ofV6?, back]

/-- Characters that end no part of an authority, colons apart. -/
def Inside (c : Char) : Prop := 0x20 < c.toNat ∧ c ≠ '#' ∧ c ≠ '/' ∧ c ≠ '?' ∧ c ≠ '@' ∧ c ≠ '\\'

instance (c : Char) : Decidable (Inside c) := inferInstanceAs (Decidable (_ ∧ _))

theorem Plain.inside {host : Host} (h : Plain host) : ∀ c ∈ host.text.toList, Inside c := by
  intro c hc
  cases h with
  | name typed allowed =>
    rw [text, String.toList_ofList] at hc
    obtain ⟨permitted, ascii, visible⟩ := allowed_of_mem_name allowed hc
    have space : c.toNat ≠ 0x20 := by
      intro same
      have blank : c = ' ' := Char.toNat_inj.mp same
      subst blank
      contradiction
    simp only [Percent.controls, Percent.isControl, Bool.or_eq_false_iff, decide_eq_false_iff_not]
      at visible
    refine ⟨by omega, ?_⟩
    refine ⟨?_, ?_, ?_, ?_, ?_⟩ <;> rintro rfl <;> contradiction
  | v6 a b c d e f g h =>
    have marks : ∀ m ∈ Percent.marks, Inside m := forall_of_all (by decide)
    simp only [text, String.toList_ofList, List.mem_cons, List.mem_append, List.not_mem_nil,
      or_false, List.cons_append] at hc
    rcases hc with rfl | hc | rfl
    · decide
    · rcases IpAddress.mem_compressed hc with rfl | ⟨n, digit⟩
      · decide
      · exact marks _ (Percent.mem_marks digit)
    · decide

theorem Plain.ascii {host : Host} (h : Plain host) : ∀ c ∈ host.text.toList, c.toNat < 0x80 := by
  intro c hc
  cases h with
  | name typed allowed =>
    rw [text, String.toList_ofList] at hc
    exact (allowed_of_mem_name allowed hc).2.1
  | v6 a b c d e f g h =>
    simp only [text, String.toList_ofList, List.mem_cons, List.mem_append, List.not_mem_nil,
      or_false, List.cons_append] at hc
    rcases hc with rfl | hc | rfl
    · decide
    · rcases IpAddress.mem_compressed hc with rfl | ⟨n, digit⟩
      · decide
      · exact (Percent.hexValue_ascii digit).1
    · decide

def Ends (rest : List Char) : Prop := ∀ c ∈ rest.head?, c = ':'

theorem cutHost_ends {rest : List Char} (h : Ends rest) : cutHost false rest = ([], rest) := by
  cases rest with
  | nil => rfl
  | cons c rest =>
    have colon : c = ':' := h c rfl
    subst colon
    simp [cutHost]

theorem cutHost_append {inside : Bool} {cs : List Char}
    (h : ∀ c ∈ cs, c ≠ '[' ∧ c ≠ ']' ∧ (c = ':' → inside = true)) (rest : List Char) :
    cutHost inside (cs ++ rest) =
      (cs ++ (cutHost inside rest).1, (cutHost inside rest).2) := by
  induction cs with
  | nil => rfl
  | cons c cs ih =>
    obtain ⟨opened, closed, colon⟩ := h c (by simp)
    have within : ¬ (c = ':' ∧ inside = false) := by
      rintro ⟨same, outside⟩
      rw [colon same] at outside
      cases outside
    rw [List.cons_append, cutHost, if_neg within, if_neg opened, if_neg closed,
      ih fun d hd => h d (by simp [hd])]
    rfl

theorem Plain.cut {host : Host} (h : Plain host) {rest : List Char} (ends : Ends rest) :
    cutHost false (host.text.toList ++ rest) = (host.text.toList, rest) := by
  cases h with
  | name typed allowed =>
    have bare : ∀ c ∈ Percent.encode Percent.controls typed,
        c ≠ '[' ∧ c ≠ ']' ∧ (c = ':' → false = true) := by
      intro c hc
      have permitted := (allowed_of_mem_name allowed hc).1
      refine ⟨?_, ?_, ?_⟩ <;> rintro rfl <;> contradiction
    rw [text, String.toList_ofList, cutHost_append bare, cutHost_ends ends, List.append_nil]
  | v6 a b c d e f g h =>
    have digits : ∀ x ∈ IpAddress.compressed (IpAddress.groups a b c d e f g h),
        x ≠ '[' ∧ x ≠ ']' ∧ (x = ':' → true = true) := by
      have marks : ∀ m ∈ Percent.marks, m ≠ '[' ∧ m ≠ ']' := forall_of_all (by decide)
      intro x hx
      rcases IpAddress.mem_compressed hx with rfl | ⟨n, digit⟩
      · decide
      · exact ⟨(marks x (Percent.mem_marks digit)).1, (marks x (Percent.mem_marks digit)).2,
          fun _ => rfl⟩
    have opened (cs : List Char) : cutHost false ('[' :: cs) =
        ('[' :: (cutHost true cs).1, (cutHost true cs).2) := by simp [cutHost]
    have closed (cs : List Char) : cutHost true (']' :: cs) =
        (']' :: (cutHost false cs).1, (cutHost false cs).2) := by simp [cutHost]
    rw [text, String.toList_ofList, List.cons_append, List.cons_append, opened, List.append_assoc,
      cutHost_append digits, List.cons_append, List.nil_append, closed, cutHost_ends ends]

end HopProbe.Url.Host
