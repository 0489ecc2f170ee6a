import HopProbe.Text.Cut
import HopProbe.Text.Natural

/-!
# Tables of code points

A table lists ranges of code points in ascending order, each with what its
members become. It is written in words: `41-5A`, or `41` for a single code
point, or `100-12E/2` for every second one, all in base sixteen. Behind an
equals sign stands the image of the first member, several code points joined
by plus signs; the first of them moves on with the member.
-/

set_option autoImplicit false

namespace HopProbe.Text

structure CodeRange where
  first : Nat
  last : Nat
  step : Nat
  image : List Nat
  deriving DecidableEq, Repr

namespace CodeRange

def number? (cs : List Char) : Option Nat :=
  cs.foldlM (fun n c => (hexValue? c).map (n * 16 + ·)) 0

def ofWord? (word : List Char) : Option CodeRange := do
  let (members, image) := (cutFirst '=' word).getD (word, [])
  let (bounds, step) := (cutFirst '/' members).getD (members, ['1'])
  let (first, last) := (cutFirst '-' bounds).getD (bounds, bounds)
  let image ← if image.isEmpty then some [] else (pieces '+' image).mapM number?
  if bounds.isEmpty then none
  else some ⟨← number? first, ← number? last, ← number? step, image⟩

def covers (r : CodeRange) (n : Nat) : Bool :=
  decide (r.first ≤ n) && decide (n ≤ r.last) && decide ((n - r.first) % r.step = 0)

def imageOf (r : CodeRange) (n : Nat) : List Char :=
  match r.image with
  | [] => []
  | v :: vs => Char.ofNat (v + (n - r.first)) :: vs.map Char.ofNat

end CodeRange

abbrev CodeTable := Array CodeRange

namespace CodeTable

def ofText (text : String) : CodeTable :=
  ((text.splitToList Char.isWhitespace).filterMap fun w => CodeRange.ofWord? w.toList).toArray

/-- Halves the places from `lo` up to `hi` until one range is left. -/
def search (t : CodeTable) (n lo hi : Nat) : Option CodeRange :=
  if lo < hi then
    let mid := (lo + hi) / 2
    match t[mid]? with
    | none => none
    | some r =>
      if n < r.first then search t n lo mid
      else if r.last < n then search t n (mid + 1) hi
      else if r.covers n then some r
      else none
  else none
termination_by hi - lo

def find? (t : CodeTable) (n : Nat) : Option CodeRange := t.search n 0 t.size

def contains (t : CodeTable) (c : Char) : Bool := (t.find? c.toNat).isSome

def image? (t : CodeTable) (c : Char) : Option (List Char) :=
  (t.find? c.toNat).map (·.imageOf c.toNat)

def value? (t : CodeTable) (c : Char) : Option Nat :=
  (t.find? c.toNat).bind (·.image.head?)

end CodeTable
end HopProbe.Text
