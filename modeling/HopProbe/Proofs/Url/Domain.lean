import HopProbe.Proofs.Text.Printable
import HopProbe.Proofs.Text.Spelling
import HopProbe.Proofs.Text.Utf8
import HopProbe.Url.DomainName

/-!
# What names of hosts are written with

No control comes into a name. Mapping brings none out of ASCII that has none,
and for hosts a name is refused that has one then. What an encoded label stands
for is above ASCII or stood in the label, and an encoding is letters and digits.
-/

set_option autoImplicit false

namespace HopProbe.Text.Normal

theorem takeApart_of_lt {c : Char} (h : c.toNat < 0xC0) (fuel : Nat) : takeApart fuel c = [c] := by
  induction fuel with
  | zero => rfl
  | succ fuel ih =>
    rw [takeApart, partsOf, if_pos h]
    dsimp only
    rw [ih]
    rfl

theorem mem_decompose {cs : List Char} (low : ∀ c ∈ cs, c.toNat < 0xC0) {c : Char}
    (h : c ∈ decompose cs) : c ∈ cs := by
  have inside := (ordered_perm _).mem_iff.mp h
  obtain ⟨d, hd, hc⟩ := List.mem_flatMap.mp inside
  rw [takeApart_of_lt (low d hd), List.mem_singleton] at hc
  exact hc ▸ hd

theorem pair?_of_lt (base : Char) {c : Char} (h : c.toNat < 0x300) : pair? base c = none := by
  have noSyllable : syllableOf? base c = none := by
    simp only [syllableOf?]
    rw [if_neg (by omega), if_neg (by omega)]
  rw [pair?, noSyllable, compositeOf?, if_pos h]
  rfl

def Composer.held (s : Composer) : List Char := s.marks ++ s.base.toList ++ s.done

theorem Composer.mem_held (s : Composer) (d : Char) :
    d ∈ s.held ↔ d ∈ s.marks ∨ s.base = some d ∨ d ∈ s.done := by
  simp [held]

theorem Composer.mem_push {s : Composer} {c d : Char} (low : c.toNat < 0x300)
    (h : d ∈ (s.push c).held) : d = c ∨ d ∈ s.held := by
  unfold push at h
  cases waits : s.base with
  | none =>
    simp only [waits] at h
    split at h
    · simp_all [mem_held]
      grind
    · simp_all [mem_held]
      grind
  | some base =>
    have apart : (if s.blocks c then none else pair? base c) = none := by
      rw [pair?_of_lt base low, ite_self]
    simp only [waits, apart] at h
    split at h
    · simp_all [mem_held]
      grind
    · simp_all [mem_held]
      grind

theorem Composer.mem_foldl {s : Composer} {cs : List Char} (low : ∀ c ∈ cs, c.toNat < 0x300)
    {d : Char} (h : d ∈ (cs.foldl push s).held) : d ∈ cs ∨ d ∈ s.held := by
  induction cs generalizing s with
  | nil => exact Or.inr h
  | cons c cs ih =>
    rcases ih (fun e he => low e (by simp [he])) h with later | taken
    · exact Or.inl (by simp [later])
    · rcases mem_push (low c (by simp)) taken with rfl | before
      · exact Or.inl (by simp)
      · exact Or.inr before

theorem mem_compose {cs : List Char} (low : ∀ c ∈ cs, c.toNat < 0x300) {c : Char}
    (h : c ∈ compose cs) : c ∈ cs := by
  rcases Composer.mem_foldl low (List.mem_reverse.mp h) with inside | start
  · exact inside
  · simp [Composer.mem_held] at start

end HopProbe.Text.Normal

namespace HopProbe.Url
open HopProbe.Text

namespace Name

theorem toLower_ascii {c : Char} (ascii : c.toNat < 0x80) (h : 0x20 ≤ c.toNat) :
    0x20 ≤ c.toLower.toNat ∧ c.toLower.toNat < 0x80 := by
  have all : ∀ n : Fin 128, 0x20 ≤ (Char.ofNat n).toNat →
      0x20 ≤ (Char.ofNat n).toLower.toNat ∧ (Char.ofNat n).toLower.toNat < 0x80 := by decide
  exact forall_ascii
    (P := fun c => 0x20 ≤ c.toNat → 0x20 ≤ c.toLower.toNat ∧ c.toLower.toNat < 0x80) all ascii h

theorem mapM_mapChar {name : List Char} (ascii : ∀ c ∈ name, c.toNat < 0x80) :
    name.mapM mapChar = some (name.map fun c => [c.toLower]) := by
  induction name with
  | nil => rfl
  | cons c cs ih =>
    have first : mapChar c = some [c.toLower] := if_pos (ascii c (by simp))
    simp [List.mapM_cons, first, ih fun d hd => ascii d (by simp [hd])]

/-- Mapping brings no control out of ASCII that has none. -/
theorem printable_mapped {name mapped : List Char} (ascii : ∀ c ∈ name, c.toNat < 0x80)
    (printable : Printable name) (h : mapped? name = some mapped) : Printable mapped := by
  rw [mapped?, mapM_mapChar ascii] at h
  cases h
  have lowered : ∀ c ∈ (name.map fun c => [c.toLower]).flatten,
      0x20 ≤ c.toNat ∧ c.toNat < 0x80 := by
    intro c hc
    obtain ⟨_, there, hc⟩ := List.mem_flatten.mp hc
    obtain ⟨d, hd, rfl⟩ := List.mem_map.mp there
    rw [List.mem_singleton.mp hc]
    exact toLower_ascii (ascii d hd) (printable d hd)
  intro c hc
  have taken : ∀ d ∈ Normal.decompose (name.map fun c => [c.toLower]).flatten,
      d ∈ (name.map fun c => [c.toLower]).flatten := fun d hd =>
    Normal.mem_decompose (fun e he => by have := lowered e he; omega) hd
  have inside := Normal.mem_compose
    (fun d hd => by have := lowered d (taken d hd); omega) hc
  exact (lowered c (taken c inside)).1

end Name

namespace Punycode

theorem printable_digit {d : Nat} (h : d < 36) : 0x20 ≤ (digit d).toNat := by
  have all : ∀ d : Fin 36, 0x20 ≤ (digit d).toNat := by decide
  exact all ⟨d, h⟩

theorem threshold_range (position bias : Nat) :
    1 ≤ threshold position bias ∧ threshold position bias ≤ 26 := by
  unfold threshold
  split
  · omega
  · split <;> omega

theorem printable_encodeNumber (bias position n : Nat) : Printable (encodeNumber bias position n) := by
  fun_induction encodeNumber bias position n with
  | case1 position n t small =>
    have range := threshold_range position bias
    simp [printable_digit (show n < 36 by omega)]
  | case2 position n t large ih =>
    have range := threshold_range position bias
    have rest := Nat.mod_lt (n - t) (show 0 < 36 - t by omega)
    simp [printable_digit (show t + (n - t) % (36 - t) < 36 by omega), ih]

theorem printable_passChar {w : Writer} (h : Printable w.out) (basic m : Nat) (c : Char) :
    Printable (passChar basic m w c).out := by
  unfold passChar
  split
  · exact h
  · split
    · exact printable_append.mpr ⟨h, printable_encodeNumber _ _ _⟩
    · exact h

theorem printable_pass {w : Writer} (h : Printable w.out) (basic m : Nat) (label : List Char) :
    Printable (label.foldl (passChar basic m) w).out := by
  induction label generalizing w with
  | nil => exact h
  | cons c label ih => exact ih (printable_passChar h basic m c)

theorem printable_insertions (label : List Char) (basic : Nat) (ms : List Nat) {n : Nat}
    {w : Writer} (h : Printable w.out) : Printable (insertions label basic ms n w).out := by
  induction ms generalizing n w with
  | nil => exact h
  | cons m ms ih =>
    rw [insertions]
    exact ih (printable_pass (w := { w with delta := w.delta + (m - n) * (w.written + 1) }) h _ _ _)

theorem printable_encode {label : List Char} (h : ∀ c ∈ label, isBasic c = true → 0x20 ≤ c.toNat) :
    Printable (encode label) := by
  have basic : Printable (label.filter isBasic) := by
    intro c hc
    obtain ⟨there, ascii⟩ := List.mem_filter.mp hc
    exact h c there ascii
  unfold encode
  apply printable_insertions
  dsimp only
  split
  · exact printable_nil
  · exact printable_append.mpr ⟨basic, by decide⟩

theorem printable_insertAll {fuel n i bias : Nat} {label cs decoded : List Char}
    (printable : Printable label) (high : 0x80 ≤ n)
    (h : insertAll fuel n i bias label cs = some decoded) : Printable decoded := by
  fun_induction insertAll fuel n i bias label cs with
  | case1 => exact Option.some.inj h ▸ printable
  | case2 => cases h
  | case3 fuel n i bias label cs more ih =>
    obtain ⟨⟨total, rest⟩, -, h⟩ := Option.bind_eq_some_iff.mp h
    dsimp only at h
    split at h
    · next valid =>
      have grown : n ≤ n + total / (label.length + 1) := Nat.le_add_right _ _
      have above : 0x20 ≤ (Char.ofNat (n + total / (label.length + 1))).toNat := by
        rw [Utf8.toNat_char valid]
        omega
      refine ih total rest (printable_append.mpr ⟨?_, printable_cons.mpr ⟨above, ?_⟩⟩) (by omega) h
      · exact printable.sublist (List.take_sublist _ _)
      · exact printable.sublist (List.drop_sublist _ _)
    · cases h

theorem printable_decode {cs label : List Char} (printable : Printable cs)
    (h : decode? cs = some label) : Printable label := by
  have basic : Printable (parts cs).1 := by
    unfold parts
    dsimp only
    split
    · exact printable_nil
    · exact printable.sublist (List.take_sublist _ _)
  simp only [decode?] at h
  split at h
  · exact printable_insertAll basic (by decide) h
  · cases h

end Punycode

namespace Label

theorem printable_plain {label plain : List Char} (printable : Printable label)
    (h : plain? label = some plain) : Printable plain := by
  unfold plain? at h
  split at h
  · next digits front =>
    split at h
    · unfold ofEncoding? at h
      split at h
      · cases h
      · split at h
        · cases h
        · next decoded =>
          split at h
          · cases h
            exact Punycode.printable_decode (printable.sublist (sublist_of_stripStart front)) decoded
          · cases h
    · cases h
  · split at h
    · exact Option.some.inj h ▸ printable
    · cases h

theorem printable_encoded {label : List Char} (h : Printable label) : Printable (encoded label) := by
  unfold encoded
  split
  · exact h
  · exact printable_append.mpr ⟨by decide, Punycode.printable_encode fun c hc _ => h c hc⟩

end Label

theorem forall_of_mapM {α β : Type} {f : α → Option β} {P : β → Prop} {as : List α} {bs : List β}
    (each : ∀ a ∈ as, ∀ b, f a = some b → P b) (h : as.mapM f = some bs) : ∀ b ∈ bs, P b := by
  induction as generalizing bs with
  | nil =>
    cases h
    simp
  | cons a as ih =>
    rw [List.mapM_cons] at h
    obtain ⟨b, first, h⟩ := Option.bind_eq_some_iff.mp h
    obtain ⟨rest, others, h⟩ := Option.bind_eq_some_iff.mp h
    cases h
    intro c hc
    rcases List.mem_cons.mp hc with rfl | hc
    · exact each a (by simp) _ first
    · exact ih (fun x hx => each x (by simp [hx])) others c hc

theorem printable_plainLabels {isForbidden : Char → Bool} {name : List Char}
    {labels : List (List Char)} (h : plainLabels? isForbidden name = some labels)
    (mapped : ∀ cs, Name.mapped? name = some cs → cs.any isForbidden = false → Printable cs) :
    ∀ label ∈ labels, Printable label := by
  obtain ⟨cs, made, h⟩ := Option.bind_eq_some_iff.mp h
  split at h
  · cases h
  · next allowed =>
    obtain ⟨plain, cut, h⟩ := Option.bind_eq_some_iff.mp h
    split at h
    · cases h
      have printable := mapped cs made (by simpa using allowed)
      refine forall_of_mapM (fun piece hp label found => ?_) cut
      exact Label.printable_plain (fun c hc => printable c (mem_of_mem_pieces hp hc)) found
    · cases h

theorem printable_asciiName {isForbidden : Char → Bool} {name ascii : List Char}
    (controls : ∀ c, c.toNat < 0x20 → isForbidden c = true)
    (h : asciiName? isForbidden name = some ascii) : Printable ascii := by
  obtain ⟨labels, found, rfl⟩ := Option.map_eq_some_iff.mp h
  have printable := printable_plainLabels found fun cs _ allowed c hc => by
    refine Decidable.byContradiction fun low => ?_
    have permitted := List.any_eq_false.mp allowed c hc
    exact permitted (controls c (by omega))
  refine printable_joined (by decide) fun label hl => ?_
  obtain ⟨plain, hp, rfl⟩ := List.mem_map.mp hl
  exact Label.printable_encoded (printable plain hp)

theorem printable_plainName {isForbidden : Char → Bool} {name plain : List Char}
    (ascii : ∀ c ∈ name, c.toNat < 0x80) (printable : Printable name)
    (h : plainName? isForbidden name = some plain) : Printable plain := by
  obtain ⟨labels, found, rfl⟩ := Option.map_eq_some_iff.mp h
  exact printable_joined (by decide) (printable_plainLabels found fun cs made _ =>
    Name.printable_mapped ascii printable made)

end HopProbe.Url
