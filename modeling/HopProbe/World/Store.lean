import HopProbe.Net.SocketAddress

/-!
# Key-value stores

A store has sixteen databases, each a map from keys to values. It may ask for
a password, and it may refuse commands on some keys with an error of its own.
A reply of a store can fail to arrive, whether or not it did what it was asked.
-/

set_option autoImplicit false

namespace HopProbe

structure Store where
  password : Option String
  user : String
  values : Int → String → Option String
  /-- Keys whose commands fail, with the error as the store words it. -/
  errors : List (String × String)

inductive Loss where
  | silence
  /-- The other side ends the connection. -/
  | ending
  /-- The connection breaks with an error of the system. -/
  | breakage (number : Int)
  deriving DecidableEq, Repr

/-- What a store makes of what it is sent. -/
inductive Conduct where
  | answers
  | loses (applied : Bool) (loss : Loss)
  deriving DecidableEq, Repr

def Conduct.applies : Conduct → Bool
  | .answers => true
  | .loses applied _ => applied

namespace Store

def databases : Int := 16

def empty : Store := ⟨none, "default", fun _ _ => none, []⟩

def get? (s : Store) (database : Int) (key : String) : Option String := s.values database key

def put (s : Store) (database : Int) (key value : String) : Store :=
  { s with values := fun d k => if d = database ∧ k = key then some value else s.values d k }

theorem get?_put (s : Store) (d d' : Int) (k k' v : String) :
    (s.put d k v).get? d' k' = if d' = d ∧ k' = k then some v else s.get? d' k' := rfl

end Store
end HopProbe
