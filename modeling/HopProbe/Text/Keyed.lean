/-!
# Values by their keys

Keys with values, in the order in which they were given. Where a key is given
more than once, its last value counts. Keys are shown in ascending order.
-/

set_option autoImplicit false

namespace HopProbe.Text

def lastValue? (given : List (String × String)) (key : String) : Option String :=
  (given.reverse.find? fun (k, _) => k == key).map Prod.snd

def ascending (keys : List String) : List String :=
  keys.eraseDups.mergeSort fun a b => decide (a ≤ b)

end HopProbe.Text
