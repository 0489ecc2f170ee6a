import HopProbe.Text.Ascii
import HopProbe.Text.Cut

/-!
# Header fields

A field has a name, which is a token and is kept in small letters, and a value
without controls other than tabs. Fields of one name form a list.
-/

set_option autoImplicit false

namespace HopProbe.Http
open HopProbe.Text

structure Field where
  name : String
  value : String
  deriving DecidableEq, Repr

abbrev Fields := List Field

def maxNames : Nat := 24576

/-- Whether a table of fields with these names has no room for another entry. -/
def isFull (names : List String) : Bool :=
  maxNames ≤ names.length && maxNames ≤ names.eraseDups.length

def isTokenChar (c : Char) : Bool :=
  c.isAlphanum ||
    ['!', '#', '$', '%', '&', '\'', '*', '+', '-', '.', '^', '_', '\x60', '|', '~'].contains c

def isToken (s : String) : Bool := s != "" && s.toList.all isTokenChar && s.length < 65536

def isFieldChar (c : Char) : Bool := (0x20 ≤ c.toNat && c.toNat != 0x7F) || c == '\t'

def isFieldValue (s : String) : Bool := s.toList.all isFieldChar

def isPlainValue (s : String) : Bool :=
  s.toList.all fun c => (0x20 ≤ c.toNat && c.toNat < 0x7F) || c == '\t'

namespace Fields

def values (fields : Fields) (name : String) : List String :=
  (fields.filter fun f => f.name == name).map Field.value

def names (fields : Fields) : List String := fields.map Field.name

/-- The given fields, and those of the defaults whose names are not among them. -/
def replacing (given defaults : Fields) : Fields :=
  defaults.filter (fun f => !given.names.contains f.name) ++ given

/-- The fields brought together by name, the names in the order in which they appear first. -/
def grouped : Fields → Fields
  | [] => []
  | f :: rest =>
    f :: (rest.filter fun g => g.name == f.name) ++
      grouped (rest.filter fun g => g.name != f.name)
termination_by fields => fields.length
decreasing_by simpa using Nat.lt_succ_of_le (List.length_filter_le ..)

def plain? (fields : Fields) (name : String) : Option String :=
  match fields.values name with
  | value :: _ => if isPlainValue value then some value else none
  | [] => none

end Fields

end HopProbe.Http
