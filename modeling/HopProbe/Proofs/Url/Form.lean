import HopProbe.Proofs.Text.Cut
import HopProbe.Proofs.Text.Spelling
import HopProbe.Proofs.Url.Percent
import HopProbe.Proofs.Url.Written
import HopProbe.Url.Form
import Mathlib.Data.List.Forall2

/-!
# Reading a form

A name or a value is read back however its characters are written: bare, if
they mean nothing in a form, or by the escapes of their bytes, or, for a
space, by a plus sign. No such text holds an ampersand or an equals sign, so
that it stays in one piece.
-/

set_option autoImplicit false

namespace HopProbe.Url.Form
open HopProbe.Text

def marks : List Char := ['&', '=', '+', '%']

/-- The ways to write a character of a name or a value. -/
inductive Writes : Char → List Char → Prop
  | bare {c : Char} (plain : c ∉ marks) : Writes c [c]
  | plus : Writes ' ' ['+']
  | escaped {c : Char} {way : List Char}
    (each : Spelled Percent.Escapes [] (Utf8.encodeChar c) way) : Writes c way

abbrev Written : List Char → List Char → Prop := Spelled Writes []

theorem writes_encodeChar (c : Char) : Writes c (encodeChar c) := by
  unfold encodeChar Percent.encodeChar
  split_ifs with space plain
  · subst space
    exact .plus
  · refine .bare fun mark => ?_
    have none : ∀ m ∈ marks, (! isPlain m) = true := forall_of_all (by decide)
    simp [none c mark] at plain
  · exact .escaped (spelled_flatMap Percent.escapes_escape _)

theorem written_encodeComponent (cs : List Char) : Written cs (encodeComponent cs) :=
  spelled_flatMap writes_encodeChar cs

def spaced (b : UInt8) : UInt8 := if b = 0x2B then 0x20 else b

theorem map_spaced {bs : List UInt8} (h : 0x2B ∉ bs) : bs.map spaced = bs := by
  have same : ∀ b ∈ bs, spaced b = b := by
    intro b hb
    have other : b ≠ 0x2B := fun e => h (e ▸ hb)
    rw [spaced, if_neg other]
  rw [List.map_congr_left same, List.map_id']

theorem not_mem_encodeChar {c : Char} (plain : c ∉ marks) {m : Char} (hm : m ∈ marks) :
    UInt8.ofNat m.toNat ∉ Utf8.encodeChar c := by
  have ascii : ∀ d ∈ marks, d.toNat < 0x80 := forall_of_all (by decide)
  intro hb
  have inside : UInt8.ofNat m.toNat ∈ Utf8.encode [c] := by simpa [Utf8.encode] using hb
  have found := Utf8.mem_of_ascii_mem_encode (ascii m hm) inside
  rw [List.mem_singleton] at found
  exact plain (found ▸ hm)

/-- A character is read back from any of its ways, whatever follows. -/
theorem decodeBytes_writes {c : Char} {way : List Char} (h : Writes c way) (rest : List UInt8) :
    Percent.decodeBytes ((Utf8.encode way).map spaced ++ rest) =
      Utf8.encodeChar c ++ Percent.decodeBytes rest := by
  cases h with
  | bare plain =>
    have bytes : Utf8.encode [c] = Utf8.encodeChar c := by simp [Utf8.encode]
    have noPlus : 0x2B ∉ Utf8.encodeChar c := not_mem_encodeChar plain (m := '+') (by decide)
    have noPercent : 0x25 ∉ Utf8.encodeChar c := not_mem_encodeChar plain (m := '%') (by decide)
    rw [bytes, map_spaced noPlus, Percent.decodeBytes_append noPercent]
  | plus => exact Percent.decodeBytes_cons (by decide) rest
  | escaped each =>
    have noPlus : '+' ∉ way := fun hm =>
      (each.forall (fun _ _ => Percent.ne_of_mem_escape) (by simp) _ hm).1 rfl
    have noByte : 0x2B ∉ Utf8.encode way :=
      Utf8.not_mem_encode_of_ascii (c := '+') (by decide) noPlus
    rw [map_spaced noByte, Percent.decodeBytes_escapes each]

theorem ne_of_mem_writes {c : Char} {way : List Char} (h : Writes c way) :
    ∀ d ∈ way, d ≠ '&' ∧ d ≠ '=' := by
  cases h with
  | bare plain =>
    intro d hd
    obtain rfl := List.mem_singleton.mp hd
    simp only [marks, List.mem_cons, not_or] at plain
    exact ⟨plain.1, plain.2.1⟩
  | plus => exact forall_of_all (by decide)
  | escaped each =>
    intro d hd
    exact (each.forall (fun _ _ => Percent.ne_of_mem_escape) (by simp) d hd).2

theorem not_mem_written {text written : List Char} (h : Written text written) :
    '&' ∉ written ∧ '=' ∉ written := by
  have none := h.forall (fun _ _ => ne_of_mem_writes) (by simp)
  exact ⟨fun hm => (none _ hm).1 rfl, fun hm => (none _ hm).2 rfl⟩

theorem head_of_writes {c : Char} {way : List Char} (h : Writes c way) :
    ∃ d more, way = d :: more ∧ (d = c ∨ d ∈ marks) := by
  cases h with
  | bare plain => exact ⟨c, [], rfl, .inl rfl⟩
  | plus => exact ⟨'+', [], rfl, .inr (by decide)⟩
  | escaped each =>
    generalize hb : Utf8.encodeChar c = bytes at each
    cases each with
    | nil => exact absurd hb (Utf8.encodeChar_ne_nil c)
    | cons first more =>
      cases first with
      | hex isHigh isLow sum => exact ⟨'%', _, rfl, .inr (by decide)⟩

theorem head_of_written {text written : List Char} (h : Written text written) :
    ∀ d ∈ written.head?, d ∈ text.head? ∨ d ∈ marks := by
  cases h with
  | nil => simp
  | cons first more =>
    obtain ⟨d, rest, rfl, same⟩ := head_of_writes first
    intro e he
    obtain rfl : d = e := by simpa using he
    rcases same with rfl | mark
    · exact .inl rfl
    · exact .inr mark

theorem component_written {text written : List Char} (h : Written text written) :
    component (Utf8.encode written) = text := by
  have bytes : Percent.decodeBytes ((Utf8.encode written).map spaced) = Utf8.encode text := by
    induction h with
    | nil => rfl
    | cons first more ih =>
      rw [Utf8.encode_append, List.map_append, decodeBytes_writes first, ih]
      rfl
  have read : component (Utf8.encode written) =
      Utf8.decodeLossy (Percent.decodeBytes ((Utf8.encode written).map spaced)) := rfl
  rw [read, bytes, Utf8.decodeLossy_encode]

theorem pair_name {name written : List Char} (h : Written name written) :
    pair (Utf8.encode written) = (name, []) := by
  have apart : (0x3D : UInt8) ∉ Utf8.encode written :=
    Utf8.not_mem_encode_of_ascii (c := '=') (by decide) (not_mem_written h).2
  rw [pair, cutFirst_of_not_mem apart]
  simp only [component_written h]

theorem pair_written {name value left right : List Char} (hn : Written name left)
    (hv : Written value right) : pair (Utf8.encode (left ++ '=' :: right)) = (name, value) := by
  have apart : (0x3D : UInt8) ∉ Utf8.encode left :=
    Utf8.not_mem_encode_of_ascii (c := '=') (by decide) (not_mem_written hn).2
  have bytes : Utf8.encode (left ++ '=' :: right) = Utf8.encode left ++ 0x3D :: Utf8.encode right := by
    rw [Utf8.encode_append]
    rfl
  rw [pair, bytes, cutFirst_append apart]
  simp only [component_written hn, component_written hv]

/-!
## Reading all pairs of a form

Each pair is a piece between ampersands, and no pair that is written has one
in it, so that a form is read pair by pair. Text that was never written as a
form is read too: where it has neither plus signs nor percent signs, a piece
keeps all of its characters but the equals sign behind its name.
-/

theorem encode_joined (ps : List (List Char)) :
    Utf8.encode (joined ['&'] ps) = joined [0x26] (ps.map Utf8.encode) := by
  fun_induction joined ['&'] ps with
  | case1 => rfl
  | case2 p => rfl
  | case3 p ps more ih =>
    obtain ⟨q, qs, rfl⟩ := List.exists_cons_of_ne_nil more
    rw [Utf8.encode_append, Utf8.encode_append, ih]
    rfl

theorem isEmpty_encode (cs : List Char) : (Utf8.encode cs).isEmpty = cs.isEmpty := by
  cases cs with
  | nil => rfl
  | cons c cs => simp [Utf8.encode, Utf8.encodeChar_ne_nil]

theorem pairs_joined {ps : List (List Char)} (h : ∀ p ∈ ps, '&' ∉ p) :
    pairs (Utf8.encode (joined ['&'] ps)) =
      (ps.filter (! ·.isEmpty)).map fun p => pair (Utf8.encode p) := by
  cases ps with
  | nil => rfl
  | cons p ps =>
    have apart : ∀ bs ∈ (p :: ps).map Utf8.encode, (0x26 : UInt8) ∉ bs := by
      intro bs hbs
      obtain ⟨q, hq, rfl⟩ := List.mem_map.mp hbs
      exact Utf8.not_mem_encode_of_ascii (c := '&') (by decide) (h q hq)
    rw [pairs, encode_joined, pieces_joined (by simp) apart, List.filter_map, List.map_map]
    simp only [Function.comp_def, isEmpty_encode]

/-- The ways to write a pair. Behind a name without a value there can be no equals sign. -/
inductive WritesPair : List Char × List Char → List Char → Prop
  | full {name value left right : List Char} (named : Written name left)
    (valued : Written value right) : WritesPair (name, value) (left ++ '=' :: right)
  | bare {name left : List Char} (named : Written name left) (filled : name ≠ []) :
    WritesPair (name, []) left

theorem ne_nil_of_written {text written : List Char} (h : Written text written)
    (filled : text ≠ []) : written ≠ [] := by
  rintro rfl
  have read : component (Utf8.encode []) = text := component_written h
  exact filled read.symm

theorem WritesPair.read {p : List Char × List Char} {way : List Char} (h : WritesPair p way) :
    '&' ∉ way ∧ way ≠ [] ∧ pair (Utf8.encode way) = p := by
  cases h with
  | full named valued =>
    refine ⟨?_, by simp, pair_written named valued⟩
    simp [(not_mem_written named).1, (not_mem_written valued).1]
  | bare named filled =>
    exact ⟨(not_mem_written named).1, ne_nil_of_written named filled, pair_name named⟩

theorem forall_written {form : List (List Char × List Char)} {ways : List (List Char)}
    (h : List.Forall₂ WritesPair form ways) : ∀ way ∈ ways, '&' ∉ way ∧ way ≠ [] := by
  induction h with
  | nil => simp
  | cons first more ih =>
    intro way hway
    rcases List.mem_cons.mp hway with rfl | later
    · exact ⟨first.read.1, first.read.2.1⟩
    · exact ih way later

theorem pairs_written {form : List (List Char × List Char)} {ways : List (List Char)}
    (h : List.Forall₂ WritesPair form ways) : pairs (Utf8.encode (joined ['&'] ways)) = form := by
  have each := forall_written h
  have kept : ways.filter (! ·.isEmpty) = ways :=
    List.filter_eq_self.mpr fun way hway => by simpa using (each way hway).2
  rw [pairs_joined fun way hway => (each way hway).1, kept]
  clear each kept
  induction h with
  | nil => rfl
  | cons first more ih => rw [List.map_cons, ih, first.read.2.2]

theorem writesPair_encode (name value : List Char) :
    WritesPair (name, value) (encodeComponent name ++ '=' :: encodeComponent value) :=
  .full (written_encodeComponent name) (written_encodeComponent value)

theorem ascii_encodeComponent {cs : List Char} {c : Char} (h : c ∈ encodeComponent cs) :
    c.toNat < 0x80 := by
  have ascii : ∀ m ∈ Percent.marks, m.toNat < 0x80 := forall_of_all (by decide)
  obtain ⟨d, -, hc⟩ := List.mem_flatMap.mp h
  unfold encodeChar at hc
  split at hc
  · obtain rfl : c = '+' := by simpa using hc
    decide
  · have written : c ∈ Percent.encode (! isPlain ·) [d] := by simpa [Percent.encode] using hc
    rcases Percent.mem_encode written with ⟨-, allowed⟩ | mark
    · exact allowed.1
    · exact ascii c mark

theorem ascii_encode {form : List (List Char × List Char)} {c : Char} (h : c ∈ encode form) :
    c.toNat < 0x80 := by
  rcases mem_joined h with amp | ⟨way, hway, hc⟩
  · obtain rfl : c = '&' := by simpa using amp
    decide
  · obtain ⟨⟨name, value⟩, -, rfl⟩ := List.mem_map.mp hway
    rcases List.mem_append.mp hc with hc | hc
    · exact ascii_encodeComponent hc
    · rcases List.mem_cons.mp hc with rfl | hc
      · decide
      · exact ascii_encodeComponent hc

section
variable {cs : List Char}

theorem component_plain (noPercent : '%' ∉ cs) (noPlus : '+' ∉ cs) :
    component (Utf8.encode cs) = cs := by
  have percent : (0x25 : UInt8) ∉ Utf8.encode cs :=
    Utf8.not_mem_encode_of_ascii (c := '%') (by decide) noPercent
  have plus : (0x2B : UInt8) ∉ Utf8.encode cs :=
    Utf8.not_mem_encode_of_ascii (c := '+') (by decide) noPlus
  have left := Percent.decodeBytes_append percent []
  rw [List.append_nil] at left
  have read : component (Utf8.encode cs) =
      Utf8.decodeLossy (Percent.decodeBytes ((Utf8.encode cs).map spaced)) := rfl
  rw [read, map_spaced plus, left, Percent.decodeBytes, List.append_nil, Utf8.decodeLossy_encode]

theorem pair_plain (noPercent : '%' ∉ cs) (noPlus : '+' ∉ cs) :
    pair (Utf8.encode cs) = (cutFirst '=' cs).getD (cs, []) := by
  by_cases inside : '=' ∈ cs
  · obtain ⟨name, value, rfl, apart⟩ := List.eq_append_cons_of_mem inside
    have named : component (Utf8.encode name) = name := component_plain (by simp_all) (by simp_all)
    have valued : component (Utf8.encode value) = value :=
      component_plain (by simp_all) (by simp_all)
    have bytes : Utf8.encode (name ++ '=' :: value) =
        Utf8.encode name ++ 0x3D :: Utf8.encode value := by
      rw [Utf8.encode_append]
      rfl
    have outside : (0x3D : UInt8) ∉ Utf8.encode name :=
      Utf8.not_mem_encode_of_ascii (c := '=') (by decide) apart
    rw [pair, bytes, cutFirst_append outside, cutFirst_append apart, Option.getD_some]
    simp only [named, valued]
  · have outside : (0x3D : UInt8) ∉ Utf8.encode cs :=
      Utf8.not_mem_encode_of_ascii (c := '=') (by decide) inside
    rw [pair, cutFirst_of_not_mem outside, cutFirst_of_not_mem inside, Option.getD_none]
    simp only [component_plain noPercent noPlus]

end

end HopProbe.Url.Form
