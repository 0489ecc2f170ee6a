import HopProbe.Script.Token
import HopProbe.Step.Handler

/-!
# Registries

A registry holds at most one handler for a verb, the one registered last. A
verb without a handler, or a word that is no verb, does nothing.
-/

set_option autoImplicit false

namespace HopProbe

structure Registry (σ : Type) where
  handler? : Verb → Option (Handler σ)

namespace Registry

variable {σ : Type}

def empty : Registry σ := ⟨fun _ => none⟩

def register (r : Registry σ) (h : Handler σ) : Registry σ :=
  ⟨fun v => if v = h.verb then some h else r.handler? v⟩

def registerAll (r : Registry σ) (hs : List (Handler σ)) : Registry σ := hs.foldl register r

/-- The handler for a word, which must be the exact name of a verb. -/
def resolve (r : Registry σ) (word : String) : Option (Handler σ) :=
  (Verb.ofName? word).bind r.handler?

def forwards (r : Registry σ) (command : Script.Command) : Bool :=
  match r.resolve command.verb with
  | some h => h.forwards command.args
  | none => false

def execute (r : Registry σ) (command : Script.Command) (context : Context) (world : σ) :
    Attempt × σ :=
  match r.resolve command.verb with
  | some h => h.execute command.args context world
  | none => (.finished "", world)

/-- Each verb that has a handler, with its synopsis, in the order of `Verb.all`. -/
def usages (r : Registry σ) : List (Verb × String) :=
  Verb.all.filterMap fun v => (r.handler? v).map fun h => (v, h.usage)

@[simp] theorem handler?_empty (v : Verb) : (empty : Registry σ).handler? v = none := rfl

theorem resolve_name (r : Registry σ) (v : Verb) : r.resolve v.name = r.handler? v := by
  simp [resolve, Verb.ofName?_name]

end Registry
end HopProbe
