import HopProbe.Text.Normal.Table

/-!
# Composed text

Canonically equivalent texts are written in one way: every composite is taken
apart, the marks behind a character are put in the order of their classes,
and what can be composed is composed, from the left. Syllables of the Korean
script are composed by calculation.
-/

set_option autoImplicit false

namespace HopProbe.Text.Normal

def syllableLetters (n : Nat) : List Char :=
  let place := n - 0xAC00
  let letters := [Char.ofNat (0x1100 + place / 588), Char.ofNat (0x1161 + place % 588 / 28)]
  if place % 28 = 0 then letters else letters ++ [Char.ofNat (0x11A7 + place % 28)]

def partsOf (c : Char) : List Char :=
  if c.toNat < 0xC0 then [c]
  else if 0xAC00 ≤ c.toNat ∧ c.toNat ≤ 0xD7A3 then syllableLetters c.toNat
  else ((replacedTable.image? c).or (compositeTable.image? c)).getD [c]

/-- Takes one character apart; composites are nested at most four deep. -/
def takeApart : Nat → Char → List Char
  | 0, c => [c]
  | fuel + 1, c =>
    match partsOf c with
    | [] => []
    | base :: marks => takeApart fuel base ++ marks

/-- Puts a character before marks in order, behind those of a lower class. -/
def place (c : Char) : List Char → List Char
  | [] => [c]
  | d :: ds =>
    if orderClass d ≠ 0 ∧ orderClass d < orderClass c then d :: place c ds else c :: d :: ds

def ordered (cs : List Char) : List Char := cs.foldr place []

theorem place_perm (c : Char) (cs : List Char) : (place c cs).Perm (c :: cs) := by
  induction cs with
  | nil => exact .refl _
  | cons d ds ih =>
    simp only [place]
    split
    · exact (ih.cons d).trans (.swap c d ds)
    · exact .refl _

theorem ordered_perm (cs : List Char) : (ordered cs).Perm cs := by
  induction cs with
  | nil => exact .refl _
  | cons c cs ih => exact (place_perm c (ordered cs)).trans (ih.cons c)

def decompose (cs : List Char) : List Char := ordered (cs.flatMap (takeApart 4))

def joins (base mark : Nat) (r : CodeRange) : Bool :=
  match r.image with
  | [b, m] => m == mark && b ≤ base && base - b ≤ r.last - r.first
  | _ => false

def compositeOf? (base mark : Char) : Option Char :=
  if mark.toNat < 0x300 then none
  else (Array.find? (joins base.toNat mark.toNat) compositeTable).bind fun r =>
    r.image.head?.map fun b => Char.ofNat (r.first + (base.toNat - b))

def syllableOf? (a b : Char) : Option Char :=
  let (m, n) := (a.toNat, b.toNat)
  if 0x1100 ≤ m ∧ m ≤ 0x1112 ∧ 0x1161 ≤ n ∧ n ≤ 0x1175 then
    some (Char.ofNat (0xAC00 + ((m - 0x1100) * 21 + (n - 0x1161)) * 28))
  else if 0xAC00 ≤ m ∧ m ≤ 0xD7A3 ∧ (m - 0xAC00) % 28 = 0 ∧ 0x11A7 < n ∧ n ≤ 0x11C2 then
    some (Char.ofNat (m + (n - 0x11A7)))
  else none

def pair? (a b : Char) : Option Char := (syllableOf? a b).or (compositeOf? a b)

/-- Text while it is composed: what is finished, the character that waits for
marks, and the marks behind it that did not join it, last ones first. -/
structure Composer where
  done : List Char
  base : Option Char
  marks : List Char

/-- A mark of the same or a higher class stands between a later one and the base. -/
def Composer.blocks (s : Composer) (c : Char) : Bool :=
  match s.marks with
  | [] => false
  | m :: _ => orderClass c ≤ orderClass m

def Composer.push (s : Composer) (c : Char) : Composer :=
  match s.base with
  | none => if orderClass c = 0 then { s with base := some c } else { s with done := c :: s.done }
  | some base =>
    match if s.blocks c then none else pair? base c with
    | some joint => { s with base := some joint }
    | none =>
      if orderClass c = 0 then ⟨s.marks ++ base :: s.done, some c, []⟩
      else { s with marks := c :: s.marks }

def Composer.finish (s : Composer) : List Char :=
  (s.marks ++ s.base.toList ++ s.done).reverse

def compose (cs : List Char) : List Char := (cs.foldl Composer.push ⟨[], none, []⟩).finish

end HopProbe.Text.Normal
