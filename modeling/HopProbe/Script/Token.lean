import HopProbe.Text.Cut

/-!
# Tokens of a line

A double quote opens or closes a span and is itself dropped. A space outside a
span ends a token, so two spaces enclose an empty one. The end of the line
ends a token only if that token is not empty, and a line of spaces and quotes
alone has none.
-/

set_option autoImplicit false

namespace HopProbe.Script

def isFiller (c : Char) : Bool := c == ' ' || c == '"'

/-- The tokens of the rest of a line, the first of which continues `current`. -/
def scan (quoted : Bool) (current : List Char) : List Char → List (List Char)
  | [] => if current.isEmpty then [] else [current]
  | c :: cs =>
    if c = '"' then scan (!quoted) current cs
    else if c = ' ' ∧ quoted = false then current :: scan false [] cs
    else scan quoted (current ++ [c]) cs

def tokens (cs : List Char) : List (List Char) :=
  if cs.all isFiller then [] else scan false [] cs

def tokenize (line : String) : List String :=
  (tokens line.toList).map String.ofList

structure Command where
  verb : String
  args : List String
  deriving DecidableEq, Repr

def Command.parse (line : String) : Option Command :=
  match tokenize line with
  | [] => none
  | verb :: args => some ⟨verb, args⟩

end HopProbe.Script
