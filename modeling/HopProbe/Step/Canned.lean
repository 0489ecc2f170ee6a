import HopProbe.Step.Handler

/-!
# Canned handlers

A handler without effect whose answers are fixed words. It makes a verb
testable without anything outside.
-/

set_option autoImplicit false

namespace HopProbe

structure Canned where
  verb : Verb
  usage : String
  /-- The first argument that makes it forward. -/
  forwardOn : Option String
  failOn : Option String
  failText : String
  /-- The first argument that gets no answer. -/
  hangOn : Option String
  /-- What every other execution answers; without it the arguments and the remainder are shown. -/
  reply : Option String
  deriving DecidableEq, Repr

namespace Canned

def isFirst (args : List String) (word : Option String) : Bool :=
  word.isSome && args.head? == word

def answer (c : Canned) (args : List String) (context : Context) : Attempt :=
  if isFirst args c.failOn then .failed (.usage (.invalid c.verb c.failText))
  else if isFirst args c.hangOn then .unanswered
  else .finished (c.reply.getD
    (String.intercalate "," args ++ " | " ++ context.remainderScript))

def handler (σ : Type) (c : Canned) : Handler σ where
  verb := c.verb
  usage := c.usage
  forwards := fun args => isFirst args c.forwardOn
  execute := fun args context world => (c.answer args context, world)

end Canned
end HopProbe
