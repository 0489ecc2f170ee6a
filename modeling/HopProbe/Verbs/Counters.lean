import HopProbe.Text.Blank
import HopProbe.Text.Natural

/-!
# Counters of network interfaces

A table has two header lines and then a line for each interface: its name, a
colon and sixteen columns or more, eight of which count what was received and
eight what was sent.
-/

set_option autoImplicit false

namespace HopProbe.Verbs
open HopProbe.Text

structure Traffic where
  bytes : Nat
  packets : Nat
  errors : Nat
  dropped : Nat
  deriving DecidableEq, Repr

structure Counters where
  received : Traffic
  sent : Traffic
  deriving DecidableEq, Repr

namespace Counters

def column? (cs : List Char) : Option Nat := (readNatural (twoTo 64) cs).toOption

/-- The columns that are numbers; all others are left out. -/
def columns (cs : List Char) : List Nat := (words cs).filterMap column?

def ofColumns? : List Nat → Option Counters
  | a :: b :: c :: d :: _ :: _ :: _ :: _ :: e :: f :: g :: h :: _ :: _ :: _ :: _ :: _ =>
    some ⟨⟨a, b, c, d⟩, ⟨e, f, g, h⟩⟩
  | _ => none

def ofLine? (line : List Char) : Option (String × Counters) := do
  let (name, rest) ← cutFirst ':' line
  let counters ← ofColumns? (columns rest)
  pure (String.ofList (trimmed name), counters)

/-- The interfaces of a table; of two lines with one name the later counts. -/
def ofTable (text : String) : List (String × Counters) :=
  ((pieces '\n' text.toList).drop 2).filterMap ofLine?

def find? (table : List (String × Counters)) (name : String) : Option Counters :=
  (table.reverse.find? fun (n, _) => n == name).map Prod.snd

end Counters
end HopProbe.Verbs
