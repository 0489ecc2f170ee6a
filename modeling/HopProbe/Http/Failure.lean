/-!
# Failures of a request

A request fails before it is sent, when its address is no HTTP address; while
it is sent; when its responses send it on and on; or after it, when the answer
breaks off.
-/

set_option autoImplicit false

namespace HopProbe.Http

inductive Failure where
  /-- The address does not parse. -/
  | malformed
  /-- The address parses but no HTTP request can go to it. -/
  | unusable (url : String)
  | noResponse (url : String)
  /-- Too many responses in a row sent the request elsewhere. -/
  | astray (url : String)
  | brokenBody (url : String)
  deriving DecidableEq, Repr

def Failure.message : Failure → String
  | .malformed => "builder error"
  | .unusable url => "builder error for url (" ++ url ++ ")"
  | .noResponse url => "error sending request for url (" ++ url ++ ")"
  | .astray url => "error following redirect for url (" ++ url ++ ")"
  | .brokenBody url => "error decoding response body for url (" ++ url ++ ")"

end HopProbe.Http
