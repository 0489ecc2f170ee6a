import HopProbe.Span
import HopProbe.Text.Blank

/-!
# Settings of a probe

What can be set, what holds where nothing is set, and what no probe can run
with.
-/

set_option autoImplicit false

namespace HopProbe
open HopProbe.Text

structure Settings where
  /-- The address to listen on. -/
  bind : String
  port : Nat
  /-- How long a step may take, in seconds. -/
  stepSeconds : Nat
  /-- How long a connection may take to be made, in seconds. -/
  connectSeconds : Nat
  /-- The largest body accepted, in bytes. -/
  maxBody : Nat
  /-- The directory that is shown as a site. -/
  siteDirectory : Option String
  deriving DecidableEq, Repr

namespace Settings

def default : Settings where
  bind := "0.0.0.0"
  port := 8080
  stepSeconds := 100
  connectSeconds := 10
  maxBody := 1024 * 1024
  siteDirectory := none

def stepTimeout (s : Settings) : Span := .ofSeconds s.stepSeconds

def connectTimeout (s : Settings) : Span := .ofSeconds s.connectSeconds

def listenAddress (s : Settings) : String := s.bind ++ ":" ++ toString s.port

inductive Defect where
  | blankBind
  | noStepTime
  | noConnectTime
  | noBody
  deriving DecidableEq, Repr

def Defect.message : Defect → String
  | .blankBind => "bind must not be empty"
  | .noStepTime => "step_timeout_secs must be > 0"
  | .noConnectTime => "connect_timeout_secs must be > 0"
  | .noBody => "max_body_bytes must be > 0"

def defect? (s : Settings) : Option Defect :=
  if s.bind.toList.all isBlank then some .blankBind
  else if s.stepSeconds = 0 then some .noStepTime
  else if s.connectSeconds = 0 then some .noConnectTime
  else if s.maxBody = 0 then some .noBody
  else none

end Settings
end HopProbe
