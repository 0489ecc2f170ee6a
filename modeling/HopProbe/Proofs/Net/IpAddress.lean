import HopProbe.Net.IpAddress
import HopProbe.Proofs.Text.Printable

/-!
# Reading an address that was written

The groups of a version 6 address are read back from its short form: the gap
stands for the run of zeros that was left out, for it is the only place where
two colons meet. Every address is read back from its text, so that no two have
the same.
-/

set_option autoImplicit false

namespace HopProbe.IpAddress
open HopProbe.Text

def written (gs : List Nat) : List Char := joined [':'] (gs.map hexText)

theorem group?_hexText {g : Nat} (h : g < 65536) : group? (hexText g) = some g := by
  have some := Nat.toDigits_ne_nil (n := g) (b := 16)
  have few : (hexText g).length ≤ 4 := (Nat.length_toDigits_le_iff (by decide) (by decide)).mpr h
  have read := foldlM_toDigits (b := 16) (by decide) (fun d => hexValue_digitChar) g
  rw [group?, if_neg]
  · exact read
  · rintro (none | many)
    · exact some (List.isEmpty_iff.mp none)
    · omega

theorem digit_of_mem_hexText {g : Nat} {c : Char} (h : c ∈ hexText g) :
    ∃ d, hexValue? c = some d := by
  obtain ⟨d, small, rfl⟩ := digit_of_mem_toDigits (by decide) h
  exact ⟨d, hexValue_digitChar small⟩

theorem not_mem_hexText {c : Char} (h : hexValue? c = none) (g : Nat) : c ∉ hexText g := by
  intro hm
  obtain ⟨d, digit⟩ := digit_of_mem_hexText hm
  simp [h] at digit

theorem mem_written {gs : List Nat} {c : Char} (h : c ∈ written gs) :
    c = ':' ∨ ∃ d, hexValue? c = some d := by
  rcases mem_joined h with colon | ⟨p, hp, hc⟩
  · exact Or.inl (List.mem_singleton.mp colon)
  · obtain ⟨g, -, rfl⟩ := List.mem_map.mp hp
    exact Or.inr (digit_of_mem_hexText hc)

theorem groupList?_map {gs : List Nat} (h : ∀ g ∈ gs, g < 65536) :
    groupList? (gs.map hexText) = some gs := by
  induction gs with
  | nil => rfl
  | cons g gs ih =>
    have first := group?_hexText (h g (by simp))
    have rest := ih fun g hg => h g (by simp [hg])
    cases gs with
    | nil => simp [groupList?, first]
    | cons g' gs =>
      rw [List.map_cons, List.map_cons, groupList?, ← List.map_cons, first, rest]
      · rfl
      · simp

theorem pieces_written {gs : List Nat} (some : gs ≠ []) :
    pieces ':' (written gs) = gs.map hexText := by
  refine pieces_joined (by simpa using some) fun p hp => ?_
  obtain ⟨g, -, rfl⟩ := List.mem_map.mp hp
  exact not_mem_hexText (by decide) g

theorem written_cons_cons (g g' : Nat) (gs : List Nat) :
    written (g :: g' :: gs) = hexText g ++ ':' :: written (g' :: gs) := by
  simp [written, joined]

theorem front_written (g : Nat) (gs : List Nat) :
    ∃ c rest, written (g :: gs) = c :: rest ∧ c ≠ ':' := by
  cases digits : hexText g with
  | nil => exact absurd digits Nat.toDigits_ne_nil
  | cons c cs =>
    have other : c ≠ ':' := by
      rintro rfl
      exact not_mem_hexText (c := ':') (by decide) g (by simp [digits])
    cases gs with
    | nil => exact ⟨c, cs, by simp [written, joined, digits], other⟩
    | cons g' gs => exact ⟨c, _, by rw [written_cons_cons, digits]; rfl, other⟩

theorem someGroups?_written {gs : List Nat} (h : ∀ g ∈ gs, g < 65536) :
    someGroups? (written gs) = some gs := by
  cases gs with
  | nil => rfl
  | cons g gs =>
    obtain ⟨c, rest, front, -⟩ := front_written g gs
    have filled : (written (g :: gs)).isEmpty = false := by simp [front]
    rw [someGroups?, filled, pieces_written (by simp), groupList?_map h]
    rfl

theorem cutAtGap_cons {c : Char} (h : c ≠ ':') (cs : List Char) :
    cutAtGap (c :: cs) = (cutAtGap cs).map fun (before, after) => (c :: before, after) := by
  cases cs with
  | nil => rfl
  | cons d cs =>
    rw [cutAtGap]
    · simp
    · intro rest same
      exact absurd same h

theorem cutAtGap_append {w : List Char} (h : ':' ∉ w) (cs : List Char) :
    cutAtGap (w ++ cs) = (cutAtGap cs).map fun (before, after) => (w ++ before, after) := by
  induction w with
  | nil => cases found : cutAtGap cs <;> simp [found]
  | cons c w ih =>
    have first : c ≠ ':' := fun e => h (by simp [e])
    rw [List.cons_append, cutAtGap_cons first, ih fun hm => h (by simp [hm]), Option.map_map]
    rfl

theorem cutAtGap_written (gs : List Nat) (cs : List Char) :
    cutAtGap (written gs ++ cs) =
      (cutAtGap cs).map fun (before, after) => (written gs ++ before, after) := by
  induction gs with
  | nil => cases found : cutAtGap cs <;> simp [written, joined, found]
  | cons g gs ih =>
    have digits : ':' ∉ hexText g := not_mem_hexText (by decide) g
    cases gs with
    | nil => exact cutAtGap_append digits cs
    | cons g' gs =>
      obtain ⟨c, rest, front, other⟩ := front_written g' gs
      have next : cutAtGap (':' :: (written (g' :: gs) ++ cs)) =
          (cutAtGap (written (g' :: gs) ++ cs)).map fun (before, after) => (':' :: before, after) := by
        rw [front, List.cons_append, cutAtGap]
        · simp
        · intro rest _ same
          exact absurd (List.cons.inj same).1 other
      rw [written_cons_cons, List.append_assoc, List.cons_append, cutAtGap_append digits, next, ih,
        Option.map_map, Option.map_map]
      simp [Function.comp_def]

theorem zeroRun_split (gs : List Nat) :
    gs = List.replicate (zeroRun gs) 0 ++ gs.drop (zeroRun gs) := by
  induction gs with
  | nil => rfl
  | cons g gs ih =>
    by_cases zero : g = 0
    · subst zero
      have longer : zeroRun (0 :: gs) = zeroRun gs + 1 := by simp [zeroRun]
      rw [longer]
      exact congrArg (0 :: ·) ih
    · have none : zeroRun (g :: gs) = 0 := by simp [zeroRun, zero]
      rw [none]
      rfl

/-- The groups around the run that is left out, and the run. -/
theorem longestZeroRun_split (gs : List Nat) :
    gs = gs.take (longestZeroRun gs).1 ++ (List.replicate (longestZeroRun gs).2 0 ++
      gs.drop ((longestZeroRun gs).1 + (longestZeroRun gs).2)) := by
  induction gs with
  | nil => rfl
  | cons g gs ih =>
    rw [longestZeroRun]
    dsimp only
    split
    · rw [List.take_zero, List.nil_append, Nat.zero_add]
      exact zeroRun_split (g :: gs)
    · rw [List.take_succ_cons, List.cons_append, Nat.add_right_comm, List.drop_succ_cons]
      exact congrArg (g :: ·) ih

theorem compressed_eq (gs : List Nat) :
    compressed gs =
      if 2 ≤ (longestZeroRun gs).2 then
        written (gs.take (longestZeroRun gs).1) ++ ':' :: ':' ::
          written (gs.drop ((longestZeroRun gs).1 + (longestZeroRun gs).2))
      else written gs := by
  simp only [compressed, written, List.append_assoc, List.cons_append, List.nil_append]

theorem mem_compressed {gs : List Nat} {c : Char} (h : c ∈ compressed gs) :
    c = ':' ∨ ∃ d, hexValue? c = some d := by
  rw [compressed_eq] at h
  split at h
  · simp only [List.mem_append, List.mem_cons] at h
    rcases h with h | rfl | rfl | h
    · exact mem_written h
    · exact Or.inl rfl
    · exact Or.inl rfl
    · exact mem_written h
  · exact mem_written h

theorem v6?_written {gs : List Nat} (some : gs ≠ []) (h : ∀ g ∈ gs, g < 65536) :
    v6? (written gs) = ofGroups? gs := by
  have noGap := cutAtGap_written gs []
  rw [List.append_nil, cutAtGap, Option.map_none] at noGap
  simp only [v6?, noGap, pieces_written some, groupList?_map h, Option.bind_eq_bind,
    Option.bind_some]

theorem v6?_gap {before after : List Nat} (front : ∀ g ∈ before, g < 65536)
    (back : ∀ g ∈ after, g < 65536) (room : before.length + after.length ≤ 7) :
    v6? (written before ++ ':' :: ':' :: written after) =
      ofGroups? (before ++ List.replicate (8 - before.length - after.length) 0 ++ after) := by
  have gap : cutAtGap (written before ++ ':' :: ':' :: written after) =
      some (written before, written after) := by
    rw [cutAtGap_written, cutAtGap]
    simp
  have noDot : (written before).contains '.' = false := by
    rw [List.contains_eq_mem, decide_eq_false_iff_not]
    intro dot
    rcases mem_written dot with colon | ⟨d, digit⟩
    · cases colon
    · cases digit
  simp only [v6?, gap, noDot, someGroups?_written front, someGroups?_written back,
    Bool.false_eq_true, if_false, Option.bind_eq_bind, Option.bind_some, room, if_true]

/-- A short form is read as the groups it was made of. -/
theorem v6?_compressed {gs : List Nat} (eight : gs.length = 8) (h : ∀ g ∈ gs, g < 65536) :
    v6? (compressed gs) = ofGroups? gs := by
  rw [compressed_eq]
  split
  · next long =>
    have split := longestZeroRun_split gs
    generalize (longestZeroRun gs).1 = start at *
    generalize (longestZeroRun gs).2 = length at *
    have lengths := congrArg List.length split
    simp only [List.length_append, List.length_take, List.length_replicate, List.length_drop,
      eight] at lengths
    rw [v6?_gap (fun g hg => h g (List.mem_of_mem_take hg)) fun g hg => h g (List.mem_of_mem_drop hg)]
    · have zeros : 8 - (gs.take start).length - (gs.drop (start + length)).length = length := by
        rw [List.length_take, List.length_drop]
        omega
      rw [zeros, List.append_assoc, ← split]
    · rw [List.length_take, List.length_drop]
      omega
  · refine v6?_written ?_ h
    rintro rfl
    cases eight

theorem v6?_compressed_groups (a b c d e f g h : UInt16) :
    v6? (compressed (groups a b c d e f g h)) = some (.v6 a b c d e f g h) := by
  rw [v6?_compressed rfl]
  · simp [groups, ofGroups?]
  · intro n hn
    obtain ⟨x, -, rfl⟩ := List.mem_map.mp hn
    exact x.toNat_lt

theorem octet?_decimalText (x : UInt8) : octet? (decimalText x.toNat) = some x := by
  have all : ∀ n : Fin 256, octet? (decimalText n) = some (UInt8.ofNat n) := by decide +kernel
  rw [all ⟨x.toNat, x.toNat_lt⟩, UInt8.ofNat_toNat]

theorem not_mem_decimalText {c : Char} (h : c.isDigit = false) (n : Nat) : c ∉ decimalText n := by
  intro hc
  simp [isDigit_toDigits n c hc] at h

theorem pieces_dotted {front : List Char} (h : '.' ∉ front) (a b c d : UInt8) :
    pieces '.' (front ++ dotted a b c d) = (front ++ decimalText a.toNat) ::
      [b, c, d].map fun x => decimalText x.toNat := by
  have four : front ++ dotted a b c d = joined ['.'] ((front ++ decimalText a.toNat) ::
      [b, c, d].map fun x => decimalText x.toNat) := by
    simp [dotted, joined]
  have number (n : Nat) : '.' ∉ decimalText n := not_mem_decimalText (by decide) n
  rw [four, pieces_joined (by simp)]
  simp [h, number]

theorem octets?_dotted (a b c d : UInt8) : octets? (dotted a b c d) = some (a, b, c, d) := by
  have cut := pieces_dotted List.not_mem_nil a b c d
  rw [List.nil_append, List.nil_append] at cut
  simp only [octets?, cut, List.map_cons, List.map_nil, octet?_decimalText]
  rfl

theorem colon_not_mem_dotted (a b c d : UInt8) : ':' ∉ dotted a b c d := by
  have number (n : Nat) : ':' ∉ decimalText n := not_mem_decimalText (by decide) n
  simp [dotted, joined, number]

theorem group?_dotted (a b c d : UInt8) : group? (dotted a b c d) = none := by
  have filled (x : UInt8) : 0 < (decimalText x.toNat).length :=
    List.length_pos_iff.mpr Nat.toDigits_ne_nil
  have long : 4 < (dotted a b c d).length := by
    have first := filled a
    have second := filled b
    simp [dotted, joined]
    omega
  rw [group?, if_pos (.inr long)]

theorem bytes_of_group (g : UInt16) : (highByte g).toNat * 256 + (lowByte g).toNat = g.toNat := by
  have range := g.toNat_lt
  simp only [highByte, lowByte, UInt8.toNat_ofNat']
  omega

def wrapping : List Char := [':', ':', 'f', 'f', 'f', 'f', ':']

theorem v6?_wrapping (g h : UInt16) :
    v6? (wrapping ++ dotted (highByte g) (lowByte g) (highByte h) (lowByte h)) =
      some (.v6 0 0 0 0 0 0xFFFF g h) := by
  generalize written : dotted (highByte g) (lowByte g) (highByte h) (lowByte h) = w
  have noColon : ':' ∉ w := written ▸ colon_not_mem_dotted _ _ _ _
  have gap : cutAtGap (wrapping ++ w) = some ([], ['f', 'f', 'f', 'f', ':'] ++ w) := by
    rw [wrapping, List.cons_append, List.cons_append, cutAtGap]
  have cut : pieces ':' (['f', 'f', 'f', 'f'] ++ ':' :: w) = [['f', 'f', 'f', 'f'], w] := by
    rw [pieces_append (by decide), pieces_of_not_mem noColon]
  have first : group? ['f', 'f', 'f', 'f'] = some 0xFFFF := by decide
  have behind : groupList? [w] = some [g.toNat, h.toNat] := by
    rw [groupList?, ← written, group?_dotted, octets?_dotted]
    simp [bytes_of_group]
  have tail : someGroups? (['f', 'f', 'f', 'f', ':'] ++ w) = some [0xFFFF, g.toNat, h.toNat] := by
    rw [someGroups?, if_neg (by simp)]
    refine (congrArg groupList? cut).trans ?_
    rw [groupList?, first, behind]
    · rfl
    · simp
  have head : someGroups? [] = some [] := rfl
  have noDot : ([] : List Char).contains '.' = false := rfl
  simp only [v6?, gap, noDot, head, tail, Bool.false_eq_true, if_false, Option.bind_eq_bind,
    Option.bind_some]
  simp [ofGroups?]

theorem v4?_compressed (gs : List Nat) : v4? (compressed gs) = none := by
  have noDot : '.' ∉ compressed gs := by
    intro dot
    rcases mem_compressed dot with colon | ⟨d, digit⟩
    · cases colon
    · cases digit
  rw [v4?, octets?, pieces_of_not_mem noDot]
  rfl

theorem v4?_wrapping (a b c d : UInt8) : v4? (wrapping ++ dotted a b c d) = none := by
  have first (cs : List Char) : octet? (wrapping ++ cs) = none := by
    have colon : (wrapping ++ cs).any (fun c => (digitValue? c).isNone) = true := rfl
    rw [octet?, if_pos (.inr (.inl colon))]
  rw [v4?, octets?, pieces_dotted (by decide)]
  simp [first]

/-- Every address is read back from its text. -/
theorem parse?_text (ip : IpAddress) : parse? ip.text = some ip := by
  unfold text
  split
  · next a b c d => rw [parse?, String.toList_ofList, v4?, octets?_dotted, Option.map_some]
  · next g h =>
    show parse? (String.ofList (wrapping ++ _)) = _
    rw [parse?, String.toList_ofList, v4?_wrapping]
    exact v6?_wrapping g h
  · next a b c d e f g h _ =>
    rw [parse?, String.toList_ofList, v4?_compressed]
    exact v6?_compressed_groups a b c d e f g h

theorem text_injective {a b : IpAddress} (h : a.text = b.text) : a = b := by
  have same := congrArg parse? h
  rw [parse?_text, parse?_text] at same
  exact Option.some.inj same

theorem printable_dotted (a b c d : UInt8) : Printable (dotted a b c d) := by
  refine printable_joined (by decide) fun part inside => ?_
  obtain ⟨x, -, rfl⟩ := List.mem_map.mp inside
  exact printable_decimal _

theorem printable_compressed (gs : List Nat) : Printable (compressed gs) := by
  intro c hc
  rcases mem_compressed hc with rfl | ⟨d, digit⟩
  · decide
  · have range := (hexValue_range digit).1
    omega

theorem printable_text (ip : IpAddress) : Printable ip.text.toList := by
  unfold text
  split
  · rw [String.toList_ofList]
    exact printable_dotted _ _ _ _
  · rw [String.toList_ofList]
    exact printable_append.mpr ⟨by decide, printable_dotted _ _ _ _⟩
  · rw [String.toList_ofList]
    exact printable_compressed _

end HopProbe.IpAddress
