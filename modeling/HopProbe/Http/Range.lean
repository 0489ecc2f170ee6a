import HopProbe.Text.Blank
import HopProbe.Text.Natural

/-!
# Ranges

A request may ask for parts of a file: from one byte to another, from a byte
to the end, or so many bytes at the end. A range that ends behind the file is
cut short; one that begins there, or overlaps another, spoils them all.
-/

set_option autoImplicit false

namespace HopProbe.Http.Range
open HopProbe.Text

inductive Wish where
  | between (first last : Nat)
  | onward (first : Nat)
  | atEnd (count : Nat)
  deriving DecidableEq, Repr

structure Part where
  first : Nat
  last : Nat
  deriving DecidableEq, Repr

def limit : Nat := twoTo 64

def number? (cs : List Char) : Option Nat :=
  if cs.head? == some '+' then none else (readNatural limit cs).toOption

def wish? (cs : List Char) : Option Wish :=
  match pieces '-' cs with
  | [[], count] => (number? count).bind fun n => if n = 0 then none else some (.atEnd n)
  | [first, []] => (number? first).map .onward
  | [first, last] => do some (.between (← number? first) (← number? last))
  | _ => none

/-- A piece of the list with at most one blank, which does not end it. -/
def neat? (cs : List Char) : Option (List Char) :=
  if cs.getLast?.any isBlank || 1 < cs.countP isBlank then none else some (trimmed cs)

def wishes? (text : String) : Option (List Wish) := do
  let cs ← stripStart "bytes=".toList text.toList
  if cs.head?.any isBlank then none
  else (pieces ',' cs).mapM fun piece => (neat? piece).bind wish?

namespace Wish

def part? (size : Nat) : Wish → Option Part
  | between first last => some ⟨first, min last (size - 1)⟩
  | onward first => some ⟨first, size - 1⟩
  | atEnd count => if size < count then none else some ⟨size - count, size - 1⟩

end Wish

namespace Part

def isOrdered (p : Part) : Bool := p.first ≤ p.last

def overlaps (p q : Part) : Bool := p.first ≤ q.last && q.first ≤ p.last

def of (content : List UInt8) (p : Part) : List UInt8 :=
  (content.drop p.first).take (p.last + 1 - p.first)

end Part

def areApart : List Part → Bool
  | [] => true
  | p :: ps => ps.all (! p.overlaps ·) && areApart ps

def parts? (size : Nat) (text : String) : Option (List Part) := do
  let parts ← (← wishes? text).mapM (Wish.part? size)
  if parts.all Part.isOrdered && areApart parts then some parts else none

end HopProbe.Http.Range
