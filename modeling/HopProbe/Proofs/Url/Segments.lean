import HopProbe.Proofs.Url.Written
import HopProbe.Url.Edit
import Mathlib.Tactic.SplitIfs

/-!
# One more segment

A text that is put behind a path is one more segment, with every character
that could end it escaped. Percent signs are escaped too, so no escape in the
text reads as a dot. Only a text that comes to nothing, to one dot or to two
dots is no segment: it is passed over, leaves an empty segment behind or takes
the last one back.
-/

set_option autoImplicit false

namespace HopProbe.Url
open HopProbe.Text

theorem dotsShown_cons {c : Char} (h : c ≠ '%') (rest : List Char) :
    dotsShown (c :: rest) = c :: dotsShown rest := by
  rw [dotsShown]
  intro e more same
  exact absurd same h

theorem dotsShown_eq_self {cs : List Char} (h : '%' ∉ cs) : dotsShown cs = cs := by
  induction cs with
  | nil => rfl
  | cons c cs ih =>
    have other : c ≠ '%' := fun e => h (by simp [e])
    rw [dotsShown_cons other, ih fun hm => h (by simp [hm])]

theorem dotsShown_escape {b : UInt8} (h : b ≠ 0x2E) (rest : List Char) :
    dotsShown (Percent.escape b ++ rest) = Percent.escape b ++ dotsShown rest := by
  have bound := b.toNat_lt
  have high := Percent.hexValue_hexDigitUpper (n := b.toNat / 16) (by omega)
  have low := Percent.hexValue_hexDigitUpper (n := b.toNat % 16) (by omega)
  have other : b.toNat ≠ 0x2E := fun e => h (UInt8.toNat_inj.mp e)
  simp only [Percent.escape, List.cons_append, List.nil_append]
  generalize hexDigitUpper (b.toNat / 16) = first at high
  generalize hexDigitUpper (b.toNat % 16) = second at low
  by_cases two : first = '2'
  · subst two
    have sixteens : 2 = b.toNat / 16 := Option.some.inj high
    have noE : ¬ (second = 'e' ∨ second = 'E') := by
      rintro (rfl | rfl)
      · have ones : 14 = b.toNat % 16 := Option.some.inj low
        omega
      · have ones : 14 = b.toNat % 16 := Option.some.inj low
        omega
    rw [dotsShown, if_neg noE]
  · rw [dotsShown, dotsShown_cons (Percent.hexValue_ascii high).2.1,
      dotsShown_cons (Percent.hexValue_ascii low).2.1]
    · intro e more _ same
      exact two (List.cons.inj same).1

theorem dotsShown_escapes {bs : List UInt8} (h : 0x2E ∉ bs) (rest : List Char) :
    dotsShown (bs.flatMap Percent.escape ++ rest) = bs.flatMap Percent.escape ++ dotsShown rest := by
  induction bs with
  | nil => rfl
  | cons b bs ih =>
    have other : b ≠ 0x2E := fun e => h (by simp [e])
    rw [List.flatMap_cons, List.append_assoc, dotsShown_escape other,
      ih fun hm => h (by simp [hm]), List.append_assoc]

theorem dotsShown_encode {escaped : Percent.EscapeSet} (dot : escaped '.' = false)
    (percent : escaped '%' = true) (cs : List Char) :
    dotsShown (Percent.encode escaped cs) = Percent.encode escaped cs := by
  induction cs with
  | nil => rfl
  | cons c cs ih =>
    rw [Percent.encode_cons]
    by_cases allowed : Percent.Allowed escaped c
    · have sign : c ≠ '%' := by
        rintro rfl
        simp [Percent.Allowed, percent] at allowed
      rw [Percent.encodeChar_allowed allowed, List.singleton_append, dotsShown_cons sign, ih]
    · have noDot : 0x2E ∉ Utf8.encodeChar c := by
        intro hm
        have inside : UInt8.ofNat '.'.toNat ∈ Utf8.encode [c] := by simpa [Utf8.encode] using hm
        have same := Utf8.mem_of_ascii_mem_encode (by decide) inside
        rw [List.mem_singleton] at same
        exact allowed (same ▸ ⟨by decide, dot⟩)
      rw [Percent.encodeChar_escaped allowed, dotsShown_escapes noDot, ih]

/-- The characters of a text that count make a segment of their own. -/
def Names (text : List Char) : Prop :=
  counted text ≠ [] ∧ counted text ≠ ['.'] ∧ counted text ≠ ['.', '.']

instance (text : List Char) : Decidable (Names text) := inferInstanceAs (Decidable (_ ∧ _))

def segmentOf (port : Nat) (text : List Char) : List Char :=
  Percent.encode (segmentEscapes (.special port)) (counted text)

theorem segmentOf_eq_iff {port : Nat} {text dots : List Char} (h : ∀ c ∈ dots, c = '.') :
    segmentOf port text = dots ↔ counted text = dots := by
  have allowed : ∀ c ∈ dots, Percent.Allowed (segmentEscapes (.special port)) c := by
    intro c hc
    rw [h c hc]
    exact ⟨by decide, rfl⟩
  constructor
  · intro same
    rw [segmentOf, ← Percent.encode_eq_self allowed] at same
    exact Percent.encode_injective rfl same
  · intro same
    rw [segmentOf, same, Percent.encode_eq_self allowed]

theorem isSingleDot_segmentOf (port : Nat) (text : List Char) :
    isSingleDot (segmentOf port text) = decide (counted text = ['.']) := by
  rw [isSingleDot, segmentOf, dotsShown_encode rfl rfl, ← segmentOf]
  simp [Bool.beq_eq_decide_eq, segmentOf_eq_iff (show ∀ c ∈ ['.'], c = '.' by simp)]

theorem isDoubleDot_segmentOf (port : Nat) (text : List Char) :
    isDoubleDot (segmentOf port text) = decide (counted text = ['.', '.']) := by
  rw [isDoubleDot, segmentOf, dotsShown_encode rfl rfl, ← segmentOf]
  simp [Bool.beq_eq_decide_eq, segmentOf_eq_iff (show ∀ c ∈ ['.', '.'], c = '.' by simp)]

theorem segmentOf_plain (port : Nat) (text : List Char) : '/' ∉ segmentOf port text :=
  Percent.not_mem_encode rfl (by decide) _

theorem take_special (port : Nat) (encode : List Char → List Char) (w : Way) (piece : List Char) :
    w.take (.special port) encode true piece = w.arrive (.special port) (encode (counted piece)) := by
  have noDrive : w.cutDrive? (.special port) piece = none := by
    unfold Way.cutDrive?
    split <;> simp
  simp only [Way.take, noDrive, if_true]

theorem pushSegment_special (port : Nat) (segments : List (List Char)) {text : String}
    (h : text ≠ "." ∧ text ≠ "..") :
    pushSegment (.special port) segments text =
      ((⟨if segments = [[]] then [] else segments, false⟩ : Way).arrive (.special port)
        (segmentOf port text.toList)).segments := by
  rw [pushSegment, if_neg (by simp [h])]
  dsimp only
  rw [take_special]
  rfl

theorem pushSegment_of_names (port : Nat) (segments : List (List Char)) {text : String}
    (h : Names text.toList) :
    pushSegment (.special port) segments text =
      (if segments = [[]] then [] else segments) ++ [segmentOf port text.toList] := by
  obtain ⟨-, single, double⟩ := h
  have noDots : text ≠ "." ∧ text ≠ ".." :=
    ⟨by rintro rfl; exact single rfl, by rintro rfl; exact double rfl⟩
  simp [pushSegment_special port segments noDots, Way.arrive, isDoubleDot_segmentOf,
    isSingleDot_segmentOf, single, double, Way.append]

/-- A text that names nothing is passed over, or an empty segment stands in its
place or in that of the segment before. -/
theorem pushSegment_of_not_names (port : Nat) {segments : List (List Char)} {text : String}
    (more : segments ≠ [[]]) (h : ¬ Names text.toList) :
    pushSegment (.special port) segments text ∈
      [segments, segments ++ [[]], segments.dropLast ++ [[]]] := by
  by_cases dots : text ≠ "." ∧ text ≠ ".."
  · rw [pushSegment_special port segments dots, if_neg more, Way.arrive, isDoubleDot_segmentOf,
      isSingleDot_segmentOf]
    by_cases double : counted text.toList = ['.', '.']
    · simp only [double, decide_true, if_true, Way.parent, Way.append]
      cases last : segments.getLast? with
      | none => simp
      | some s => by_cases drive : isDrive s <;> simp [drive]
    · by_cases single : counted text.toList = ['.']
      · simp [single, Way.append]
      · have nothing : counted text.toList = [] := by
          refine Decidable.byContradiction fun other => ?_
          exact h ⟨other, single, double⟩
        have empty : segmentOf port text.toList = [] := by rw [segmentOf, nothing]; rfl
        simp [nothing, empty, Way.append]
  · have passed : text = "." ∨ text = ".." := by
      refine Decidable.byContradiction fun other => ?_
      exact dots (not_or.mp other)
    simp [pushSegment, passed]

theorem segmentsText_append (front back : List (List Char)) :
    segmentsText (front ++ back) = segmentsText front ++ segmentsText back :=
  List.flatMap_append

/-- One more segment, which is not empty. -/
def OneDeeper (path more : List Char) : Prop :=
  ∃ segment, segment ≠ [] ∧ '/' ∉ segment ∧ more = path ++ '/' :: segment

/-- Behind a segment that is not empty, a text is one more that is not empty just if it names
something. -/
theorem oneDeeper_pushSegment (port : Nat) {front : List (List Char)} {last : List Char}
    (filled : last ≠ []) (text : String) :
    OneDeeper (segmentsText (front ++ [last]))
      (segmentsText (pushSegment (.special port) (front ++ [last]) text)) ↔
      Names text.toList := by
  have more : front ++ [last] ≠ [[]] := by
    intro e
    have ends := congrArg List.getLast? e
    simp [filled] at ends
  constructor
  · rintro ⟨segment, longer, -, path⟩
    refine Decidable.byContradiction fun nameless => ?_
    have length := congrArg List.length path
    have some := List.length_pos_iff.mpr longer
    have cases := pushSegment_of_not_names port more nameless
    simp only [List.mem_cons, List.not_mem_nil, or_false] at cases
    rcases cases with same | empty | back
    · rw [same, List.length_append, List.length_cons] at length
      omega
    · rw [empty, segmentsText_append, List.length_append, List.length_append] at length
      simp only [segmentsText, List.flatMap_singleton, List.length_cons, List.length_nil] at length
      omega
    · rw [back, List.dropLast_concat, segmentsText_append, segmentsText_append] at length
      simp only [segmentsText, List.length_append, List.flatMap_singleton, List.length_cons,
        List.length_nil] at length
      omega
  · intro names
    have written : segmentOf port text.toList ≠ [] := by
      rw [Ne, segmentOf_eq_iff (by simp)]
      exact names.1
    refine ⟨segmentOf port text.toList, written, segmentOf_plain port _, ?_⟩
    rw [pushSegment_of_names port _ names, if_neg more, segmentsText_append]
    simp [segmentsText]

end HopProbe.Url
