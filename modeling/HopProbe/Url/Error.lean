/-!
# Why a text is no URL
-/

set_option autoImplicit false

namespace HopProbe.Url

inductive ParseError where
  | emptyHost
  | badName
  | badPort
  | badV4
  | badV6
  | badHostCharacter
  | noScheme
  deriving DecidableEq, Repr

def ParseError.message : ParseError → String
  | .emptyHost => "empty host"
  | .badName => "invalid international domain name"
  | .badPort => "invalid port number"
  | .badV4 => "invalid IPv4 address"
  | .badV6 => "invalid IPv6 address"
  | .badHostCharacter => "invalid domain character"
  | .noScheme => "relative URL without a base"

end HopProbe.Url
