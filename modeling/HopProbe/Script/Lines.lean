import HopProbe.Script.JsonString
import HopProbe.Text.Blank

/-!
# Lines of a script

A script is the non-empty lines of a text, without carriage returns. A text
that is, apart from white space around it, a JSON string literal stands for
the text that the literal denotes.
-/

set_option autoImplicit false

namespace HopProbe.Script
open HopProbe.Text

/-- The text a body stands for, unwrapped at most once. -/
def unwrapped (body : List Char) : List Char :=
  (JsonString.decode? (trimmed body)).getD body

def nonEmptyLines (text : List Char) : List (List Char) :=
  (pieces '\n' (text.filter (· ≠ '\r'))).filter (! ·.isEmpty)

def splitLines (body : List Char) : List (List Char) :=
  nonEmptyLines (unwrapped body)

def lines (body : String) : List String :=
  (splitLines body.toList).map String.ofList

def join (lines : List String) : String := String.intercalate "\n" lines

end HopProbe.Script
