import HopProbe.Proofs.Toml.Spacing
import HopProbe.Toml.Quoted

/-!
# String literals as they are written

The four kinds of literals, each from a text behind its opening quotes to what
is left behind the closing ones. What is written is what is read.
-/

set_option autoImplicit false

namespace HopProbe.Toml.Quoted
open HopProbe.Text

variable {c : Char} {cs mid text rest : List Char}

inductive Escape : List Char → Char → List Char → Prop
  | short {c d : Char} (h : short? c = some d) (rest : List Char) : Escape (c :: rest) d rest
  | byte {a b d : Char} (h : scalar? [a, b] = some d) (rest : List Char) :
    Escape ('x' :: a :: b :: rest) d rest
  | unit {a b c e d : Char} (h : scalar? [a, b, c, e] = some d) (rest : List Char) :
    Escape ('u' :: a :: b :: c :: e :: rest) d rest
  | full {a b c e a' b' c' e' d : Char} (h : scalar? [a, b, c, e, a', b', c', e'] = some d)
    (rest : List Char) : Escape ('U' :: a :: b :: c :: e :: a' :: b' :: c' :: e' :: rest) d rest

inductive Basic : List Char → List Char → List Char → Prop
  | close (rest : List Char) : Basic ('"' :: rest) [] rest
  | plain {c : Char} {cs text rest : List Char} (printable : isPrintable c = true)
    (bare : c ≠ '"' ∧ c ≠ '\\') (h : Basic cs text rest) : Basic (c :: cs) (c :: text) rest
  | escape {c : Char} {cs mid text rest : List Char} (e : Escape cs c mid)
    (h : Basic mid text rest) : Basic ('\\' :: cs) (c :: text) rest

inductive Literal : List Char → List Char → List Char → Prop
  | close (rest : List Char) : Literal ('\'' :: rest) [] rest
  | plain {c : Char} {cs text rest : List Char} (printable : isPrintable c = true)
    (bare : c ≠ '\'') (h : Literal cs text rest) : Literal (c :: cs) (c :: text) rest

inductive BasicPiece : List Char → List Char → List Char → Prop
  | plain {c : Char} (printable : isPrintable c = true) (bare : c ≠ '"' ∧ c ≠ '\\')
    (rest : List Char) : BasicPiece (c :: rest) [c] rest
  | ends {cs rest : List Char} (b : Break cs rest) : BasicPiece cs ['\n'] rest
  | escape {c : Char} {cs rest : List Char} (e : Escape cs c rest) : BasicPiece ('\\' :: cs) [c] rest
  /-- An escaped line end takes all blanks and line ends behind it with it. -/
  | continued {cs mid rest : List Char} (b : Blanks cs mid) (e : Break mid rest) :
    BasicPiece ('\\' :: cs) [] (skipBlankLines rest)

inductive LiteralPiece : List Char → List Char → List Char → Prop
  | plain {c : Char} (printable : isPrintable c = true) (bare : c ≠ '\'') (rest : List Char) :
    LiteralPiece (c :: rest) [c] rest
  | ends {cs rest : List Char} (b : Break cs rest) : LiteralPiece cs ['\n'] rest

/-- A text in front of three closing quotes. Up to two quotes stand together in it, and at its
end. -/
inductive Tripled (quote : Char) (Piece : List Char → List Char → List Char → Prop) :
    List Char → List Char → List Char → Prop
  | close {rest : List Char} (ends : rest.head? ≠ some quote) :
    Tripled quote Piece (quote :: quote :: quote :: rest) [] rest
  | closeOne {rest : List Char} (ends : rest.head? ≠ some quote) :
    Tripled quote Piece (quote :: quote :: quote :: quote :: rest) [quote] rest
  | closeTwo (rest : List Char) :
    Tripled quote Piece (quote :: quote :: quote :: quote :: quote :: rest) [quote, quote] rest
  | one {cs text rest : List Char} (ends : cs.head? ≠ some quote)
    (h : Tripled quote Piece cs text rest) : Tripled quote Piece (quote :: cs) (quote :: text) rest
  | two {cs text rest : List Char} (ends : cs.head? ≠ some quote)
    (h : Tripled quote Piece cs text rest) :
    Tripled quote Piece (quote :: quote :: cs) (quote :: quote :: text) rest
  | piece {cs mid part text rest : List Char} (p : Piece cs part mid)
    (h : Tripled quote Piece mid text rest) : Tripled quote Piece cs (part ++ text) rest

/-- A line end right behind three opening quotes is no part of the text. -/
inductive Opening : List Char → List Char → Prop
  | ends {cs rest : List Char} (b : Break cs rest) : Opening cs rest
  | none {cs : List Char} (no : newline? cs = none) : Opening cs cs

inductive Line : List Char → List Char → List Char → Prop
  | basic {cs text rest : List Char} (h : Basic cs text rest) : Line ('"' :: cs) text rest
  | literal {cs text rest : List Char} (h : Literal cs text rest) : Line ('\'' :: cs) text rest

inductive Text : List Char → List Char → List Char → Prop
  | line {cs text rest : List Char} (h : Line cs text rest) : Text cs text rest
  | basic {cs mid text rest : List Char} (o : Opening cs mid)
    (h : Tripled '"' BasicPiece mid text rest) : Text ('"' :: '"' :: '"' :: cs) text rest
  | literal {cs mid text rest : List Char} (o : Opening cs mid)
    (h : Tripled '\'' LiteralPiece mid text rest) : Text ('\'' :: '\'' :: '\'' :: cs) text rest

theorem Escape.read (h : Escape cs c rest) : escape? cs = some (c, rest) := by
  cases h with
  | @short c d h rest =>
    have letter : c ≠ 'x' ∧ c ≠ 'u' ∧ c ≠ 'U' := by
      refine ⟨?_, ?_, ?_⟩ <;> rintro rfl <;> cases h
    rw [escape?.eq_def]
    split
    · next same => exact absurd (List.cons.inj same).1 letter.1
    · next same => exact absurd (List.cons.inj same).1 letter.2.1
    · next same => exact absurd (List.cons.inj same).1 letter.2.2
    · next same =>
      cases same
      rw [h]
      rfl
    · next same => cases same
  | byte h => simp only [escape?, h, Option.map_some]
  | unit h => simp only [escape?, h, Option.map_some]
  | full h => simp only [escape?, h, Option.map_some]

theorem Escape.length_lt (h : Escape cs c rest) : rest.length < cs.length :=
  length_of_escape? h.read

theorem basic?_plain (printable : isPrintable c = true) (bare : c ≠ '"' ∧ c ≠ '\\')
    (cs : List Char) : basic? (c :: cs) = (basic? cs).map (prepend c) := by
  rw [basic?.eq_def]
  split
  · next same => cases same
  · next same => exact absurd (List.cons.inj same).1 bare.1
  · next same => exact absurd (List.cons.inj same).1 bare.2
  · next same =>
    cases same
    rw [if_pos printable]

theorem basic?_escape (h : escape? cs = some (c, rest)) :
    basic? ('\\' :: cs) = (basic? rest).map (prepend c) := by
  rw [basic?]
  split
  · next found =>
    rw [h] at found
    cases found
    rfl
  · next none =>
    rw [h] at none
    cases none

theorem Basic.read (h : Basic cs text rest) : basic? cs = some (text, rest) := by
  induction h with
  | close rest => rw [basic?]
  | plain printable bare h ih =>
    rw [basic?_plain printable bare, ih]
    rfl
  | escape e h ih =>
    rw [basic?_escape e.read, ih]
    rfl

theorem Literal.read (h : Literal cs text rest) : literal? cs = some (text, rest) := by
  induction h with
  | close rest => rfl
  | @plain c cs text rest printable bare h ih =>
    rw [literal?.eq_def]
    split
    · next same => cases same
    · next same => exact absurd (List.cons.inj same).1 bare
    · next same =>
      cases same
      rw [if_pos printable, ih]
      rfl

/-- How a reader takes quotes in front of three closing ones, and the pieces before them. -/
structure Reader (quote : Char) (Piece : List Char → List Char → List Char → Prop)
    (read : List Char → Option (List Char × List Char)) : Prop where
  three {rest : List Char} (ends : rest.head? ≠ some quote) :
    read (quote :: quote :: quote :: rest) = some ([], rest)
  four {rest : List Char} (ends : rest.head? ≠ some quote) :
    read (quote :: quote :: quote :: quote :: rest) = some ([quote], rest)
  five (rest : List Char) :
    read (quote :: quote :: quote :: quote :: quote :: rest) = some ([quote, quote], rest)
  one {cs : List Char} (ends : cs.head? ≠ some quote) :
    read (quote :: cs) = (read cs).map (prepend quote)
  two {cs : List Char} (ends : cs.head? ≠ some quote) :
    read (quote :: quote :: cs) = (read (quote :: cs)).map (prepend quote)
  piece {cs part mid : List Char} (p : Piece cs part mid) :
    read cs = (read mid).map fun r => (part ++ r.1, r.2)

theorem Reader.read_tripled {quote : Char} {Piece : List Char → List Char → List Char → Prop}
    {read : List Char → Option (List Char × List Char)} (r : Reader quote Piece read)
    (h : Tripled quote Piece cs text rest) : read cs = some (text, rest) := by
  induction h with
  | close ends => exact r.three ends
  | closeOne ends => exact r.four ends
  | closeTwo rest => exact r.five rest
  | one ends h ih =>
    rw [r.one ends, ih]
    rfl
  | two ends h ih =>
    rw [r.two ends, r.one ends, ih]
    rfl
  | piece p h ih =>
    rw [r.piece p, ih]
    rfl

theorem multiBasic?_plain (printable : (isPrintable c || c == '\n') = true)
    (bare : c ≠ '\\') {cs : List Char} (apart : c = '"' → ∀ more, cs ≠ '"' :: '"' :: more) :
    multiBasic? (c :: cs) = (multiBasic? cs).map (prepend c) := by
  rw [multiBasic?.eq_def]
  split
  · next same => cases same
  · next same =>
    cases same
    exact absurd rfl (apart rfl _)
  · next same =>
    cases same
    exact absurd rfl (apart rfl _)
  · next same =>
    cases same
    exact absurd rfl (apart rfl _)
  · next same => exact absurd (List.cons.inj same).1 bare
  · next same =>
    cases same
    exact absurd printable (by decide)
  · next same =>
    cases same
    rw [if_pos printable]

theorem multiBasic?_continued (h : escapedBreak? cs = some rest) :
    multiBasic? ('\\' :: cs) = multiBasic? rest := by
  rw [multiBasic?]
  split
  · next found =>
    rw [h] at found
    cases found
    rfl
  · next none =>
    rw [h] at none
    cases none

theorem multiBasic?_escape (none : escapedBreak? cs = none) (h : escape? cs = some (c, rest)) :
    multiBasic? ('\\' :: cs) = (multiBasic? rest).map (prepend c) := by
  rw [multiBasic?]
  split
  · next found =>
    rw [none] at found
    cases found
  · split
    · next found =>
      rw [h] at found
      cases found
      rfl
    · next lost =>
      rw [h] at lost
      cases lost

theorem Escape.no_break (h : Escape cs c rest) : escapedBreak? cs = none := by
  have letter {d : Char} (apart : isSpace d = false ∧ d ≠ '\n' ∧ d ≠ '\r') (more : List Char) :
      escapedBreak? (d :: more) = none := by
    rw [escapedBreak?, skipSpaces, List.dropWhile_cons_of_neg (by simp [apart.1]), newline?.eq_def]
    split
    · next same => exact absurd (List.cons.inj same).1 apart.2.1
    · next same => exact absurd (List.cons.inj same).1 apart.2.2
    · rfl
  cases h with
  | @short c d h rest =>
    have plain : isSpace c = false ∧ c ≠ '\n' ∧ c ≠ '\r' := by
      refine ⟨Bool.eq_false_iff.mpr fun space => ?_, ?_, ?_⟩
      · simp only [isSpace, Bool.or_eq_true, beq_iff_eq] at space
        rcases space with rfl | rfl <;> cases h
      · rintro rfl
        cases h
      · rintro rfl
        cases h
    exact letter plain _
  | byte h => exact letter (by decide) _
  | unit h => exact letter (by decide) _
  | full h => exact letter (by decide) _

theorem multiBasic?_piece {part : List Char} (p : BasicPiece cs part mid) :
    multiBasic? cs = (multiBasic? mid).map fun r => (part ++ r.1, r.2) := by
  cases p with
  | plain printable bare =>
    exact multiBasic?_plain (by rw [printable]; rfl) bare.2 fun same => absurd same bare.1
  | ends b =>
    cases b with
    | feed => exact multiBasic?_plain rfl (by decide) (fun same => absurd same (by decide))
    | returned => rw [multiBasic?]; rfl
  | escape e => exact multiBasic?_escape e.no_break e.read
  | @continued cs mid rest b e =>
    have found : escapedBreak? cs = some (skipBlankLines rest) := by
      rw [escapedBreak?, b.skip, skipSpaces_of_break e, e.newline?]
      rfl
    rw [multiBasic?_continued found]
    exact Option.map_id'.symm

theorem multiBasic_reader : Reader '"' BasicPiece multiBasic? where
  three ends := by
    rw [multiBasic?] <;> rintro more rfl <;> exact ends rfl
  four ends := by
    rw [multiBasic?]
    rintro more rfl
    exact ends rfl
  five rest := by rw [multiBasic?]
  one ends := by
    refine multiBasic?_plain rfl (by decide) fun _ more same => ?_
    subst same
    exact ends rfl
  two ends := by
    refine multiBasic?_plain rfl (by decide) fun _ more same => ?_
    cases same
    exact ends rfl
  piece := multiBasic?_piece

theorem multiLiteral?_plain (printable : (isPrintable c || c == '\n') = true) {cs : List Char}
    (apart : c = '\'' → ∀ more, cs ≠ '\'' :: '\'' :: more) :
    multiLiteral? (c :: cs) = (multiLiteral? cs).map (prepend c) := by
  rw [multiLiteral?.eq_def]
  split
  · next same => cases same
  · next same =>
    cases same
    exact absurd rfl (apart rfl _)
  · next same =>
    cases same
    exact absurd rfl (apart rfl _)
  · next same =>
    cases same
    exact absurd rfl (apart rfl _)
  · next same =>
    cases same
    exact absurd printable (by decide)
  · next same =>
    cases same
    rw [if_pos printable]

theorem multiLiteral_reader : Reader '\'' LiteralPiece multiLiteral? where
  three ends := by
    rw [multiLiteral?] <;> rintro more rfl <;> exact ends rfl
  four ends := by
    rw [multiLiteral?]
    rintro more rfl
    exact ends rfl
  five rest := by rw [multiLiteral?]
  one ends := by
    refine multiLiteral?_plain rfl fun _ more same => ?_
    subst same
    exact ends rfl
  two ends := by
    refine multiLiteral?_plain rfl fun _ more same => ?_
    cases same
    exact ends rfl
  piece p := by
    cases p with
    | plain printable bare =>
      exact multiLiteral?_plain (by rw [printable]; rfl) fun same => absurd same bare
    | ends b =>
      cases b with
      | feed => exact multiLiteral?_plain rfl fun same => absurd same (by decide)
      | returned => rw [multiLiteral?]; rfl

theorem Opening.read (h : Opening cs rest) : withoutBreak cs = rest := by
  cases h with
  | ends b => rw [withoutBreak, b.newline?, Option.getD_some]
  | none no => rw [withoutBreak, no, Option.getD_none]

theorem Line.read (h : Line cs text rest) : line? cs = some (text, rest) := by
  cases h with
  | basic h => exact h.read
  | literal h => exact h.read

theorem Line.length_lt (h : Line cs text rest) : rest.length < cs.length := by
  cases h with
  | basic h =>
    refine Nat.lt_succ_of_le ?_
    induction h with
    | close => exact Nat.le_succ _
    | plain _ _ h ih => exact Nat.le_succ_of_le ih
    | escape e h ih => exact Nat.le_succ_of_le (Nat.le_trans ih (Nat.le_of_lt e.length_lt))
  | literal h =>
    refine Nat.lt_succ_of_le ?_
    induction h with
    | close => exact Nat.le_succ _
    | plain _ _ h ih => exact Nat.le_succ_of_le ih

theorem Opening.length_le (h : Opening cs rest) : rest.length ≤ cs.length := by
  cases h with
  | ends b => exact Nat.le_of_lt b.length_lt
  | none => exact Nat.le_refl _

theorem Tripled.length_le {quote : Char} {Piece : List Char → List Char → List Char → Prop}
    (shorter : ∀ {cs part mid : List Char}, Piece cs part mid → mid.length ≤ cs.length)
    (h : Tripled quote Piece cs text rest) : rest.length ≤ cs.length := by
  induction h with
  | close | closeOne | closeTwo => simp only [List.length_cons]; omega
  | one _ h ih => exact Nat.le_succ_of_le ih
  | two _ h ih => exact Nat.le_succ_of_le (Nat.le_succ_of_le ih)
  | piece p h ih => exact Nat.le_trans ih (shorter p)

theorem BasicPiece.length_le {part : List Char} (p : BasicPiece cs part rest) :
    rest.length ≤ cs.length := by
  cases p with
  | plain => exact Nat.le_succ _
  | ends b => exact Nat.le_of_lt b.length_lt
  | escape e => exact Nat.le_succ_of_le (Nat.le_of_lt e.length_lt)
  | @continued cs mid rest b e =>
    have := length_skipBlankLines_le rest
    have := b.length_le
    have := e.length_lt
    simp only [List.length_cons]
    omega

theorem LiteralPiece.length_le {part : List Char} (p : LiteralPiece cs part rest) :
    rest.length ≤ cs.length := by
  cases p with
  | plain => exact Nat.le_succ _
  | ends b => exact Nat.le_of_lt b.length_lt

theorem Text.length_lt (h : Text cs text rest) : rest.length < cs.length := by
  cases h with
  | line h => exact h.length_lt
  | basic o h =>
    have := o.length_le
    have := h.length_le BasicPiece.length_le
    simp only [List.length_cons]
    omega
  | literal o h =>
    have := o.length_le
    have := h.length_le LiteralPiece.length_le
    simp only [List.length_cons]
    omega

theorem Text.read (h : Text cs text rest) (apart : rest.head? ≠ some '"' ∧ rest.head? ≠ some '\'') :
    text? cs = some (text, rest) := by
  cases h with
  | line h =>
    rw [text?.eq_def]
    split
    · next rest' =>
      cases h with
      | basic h =>
      cases h with
      | close => exact absurd rfl apart.1
      | plain _ bare => exact absurd rfl bare.1
    · next rest' =>
      cases h with
      | literal h =>
      cases h with
      | close => exact absurd rfl apart.2
      | plain _ bare => exact absurd rfl bare
    · exact h.read
  | basic o h =>
    rw [text?, o.read]
    exact multiBasic_reader.read_tripled h
  | literal o h =>
    rw [text?, o.read]
    exact multiLiteral_reader.read_tripled h

def spell (c : Char) : List Char :=
  if isPrintable c ∧ c ≠ '"' ∧ c ≠ '\\' then [c]
  else ['\\', 'x', hexDigitLower (c.toNat / 16), hexDigitLower (c.toNat % 16)]

theorem basic_spell (text rest : List Char) : Basic (text.flatMap spell ++ '"' :: rest) text rest := by
  have byte : ∀ n : Fin 128, scalar? [hexDigitLower (n.val / 16), hexDigitLower (n.val % 16)] =
      some (Char.ofNat n) := by decide
  induction text with
  | nil => exact .close rest
  | cons c text ih =>
    rw [List.flatMap_cons, spell]
    split
    · next plain => exact .plain plain.1 plain.2 ih
    · next escaped =>
      have small : c.toNat < 128 := by
        refine Nat.lt_of_not_le fun large => escaped ⟨?_, ?_, ?_⟩
        · have printable : 0x20 ≤ c.toNat ∧ c.toNat ≠ 0x7F := by omega
          simp [isPrintable, printable]
        · rintro rfl
          exact absurd large (by decide)
        · rintro rfl
          exact absurd large (by decide)
      have found := byte ⟨c.toNat, small⟩
      rw [Char.ofNat_toNat] at found
      exact .escape (.byte found _) ih

end HopProbe.Toml.Quoted
