import HopProbe.Text.Cut

/-!
# White space

The characters with the property White_Space, the trimming of texts by them
and the words between them.
-/

set_option autoImplicit false

namespace HopProbe.Text

/-- The property White_Space. -/
def isBlank (c : Char) : Bool :=
  let n := c.toNat
  (0x9 ≤ n && n ≤ 0xD) || n == 0x20 || n == 0x85 || n == 0xA0 || n == 0x1680 ||
    (0x2000 ≤ n && n ≤ 0x200A) || n == 0x2028 || n == 0x2029 || n == 0x202F ||
    n == 0x205F || n == 0x3000

def trimmed (cs : List Char) : List Char :=
  dropEndWhile isBlank (cs.dropWhile isBlank)

def trim (s : String) : String := String.ofList (trimmed s.toList)

def words (cs : List Char) : List (List Char) :=
  (go cs).filter (! ·.isEmpty)
where
  go : List Char → List (List Char)
    | [] => [[]]
    | c :: cs =>
      if isBlank c then [] :: go cs
      else match go cs with
        | [] => [[c]]
        | p :: ps => (c :: p) :: ps

end HopProbe.Text
