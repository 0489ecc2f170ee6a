import HopProbe.Net.SocketAddress
import HopProbe.Script.Lines
import HopProbe.Step.Error
import HopProbe.Text.Ascii

/-!
# Handlers

A handler is what a verb does. It sees its arguments, the lines that have not
been started and the request that brought the script, and it changes a world
of any kind. Whether a line hands the rest of its script to a peer is decided
from the arguments alone.
-/

set_option autoImplicit false

namespace HopProbe

structure Inbound where
  headers : List (String × String)
  remote : Option SocketAddress
  deriving DecidableEq, Repr

def Inbound.headerValues (request : Inbound) (name : String) : List String :=
  (request.headers.filter fun (key, _) => Text.sameLetters key name).map Prod.snd

def Inbound.empty : Inbound := ⟨[], none⟩

structure Context where
  /-- The lines that have not been started. -/
  remainder : List String
  request : Inbound
  deriving DecidableEq, Repr

def Context.remainderScript (context : Context) : String := Script.join context.remainder

inductive Attempt where
  | finished (text : String)
  | failed (error : StepError)
  /-- No answer, however long one waits. -/
  | unanswered
  deriving DecidableEq, Repr

structure Handler (σ : Type) where
  verb : Verb
  /-- A synopsis of the arguments. -/
  usage : String
  forwards : List String → Bool
  execute : List String → Context → σ → Attempt × σ

inductive Outcome where
  | success (text : String)
  | failure (detail : String)
  deriving DecidableEq, Repr

/-- An execution without an answer is given up after the limit. -/
def Attempt.outcome (limit : Span) : Attempt → Outcome
  | .finished text => .success text
  | .failed error => .failure error.message
  | .unanswered => .failure (Fault.timeout limit).message

end HopProbe
