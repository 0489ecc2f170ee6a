/-!
# ASCII letters

Names of headers, options and charsets are compared without regard to the
case of the 26 letters; no other character has a case here.
-/

set_option autoImplicit false

namespace HopProbe.Text

def lower (s : String) : String := String.ofList (s.toList.map Char.toLower)

def sameLetters (s t : String) : Bool := lower s == lower t

end HopProbe.Text
