import HopProbe.Http.Failure
import HopProbe.Span
import HopProbe.Step.Verb
import HopProbe.World.IoError

/-!
# What a step can fail with

Either its line was misused, which is decided from the line alone, or
something it reached for failed.
-/

set_option autoImplicit false

namespace HopProbe

inductive UsageError where
  | missing (verb : Verb) (name : String)
  | invalid (verb : Verb) (detail : String)
  deriving DecidableEq, Repr

inductive Fault where
  | connect (target : String) (cause : IoError)
  | timeout (after : Span)
  | io (cause : IoError)
  | http (cause : Http.Failure)
  | sql (detail : String)
  | keyValue (detail : String)
  | blob (detail : String)
  | dns (detail : String)
  deriving DecidableEq, Repr

inductive StepError where
  | usage (error : UsageError)
  | fault (cause : Fault)
  deriving DecidableEq, Repr

def UsageError.message : UsageError → String
  | .missing verb name => verb.name ++ ": missing argument <" ++ name ++ ">"
  | .invalid verb detail => verb.name ++ ": " ++ detail

def Fault.message : Fault → String
  | .connect target cause => "connect to " ++ target ++ " failed: " ++ cause.message
  | .timeout after => "timed out after " ++ after.text
  | .io cause => "I/O error: " ++ cause.message
  | .http cause => "HTTP error: " ++ cause.message
  | .sql detail => "SQL error: " ++ detail
  | .keyValue detail => "key-value store error: " ++ detail
  | .blob detail => "blob store error: " ++ detail
  | .dns detail => "DNS error: " ++ detail

def StepError.message : StepError → String
  | .usage error => error.message
  | .fault cause => cause.message

end HopProbe
