/-!
# Verbs

A line starts with a verb, written exactly in capitals.
-/

set_option autoImplicit false

namespace HopProbe

inductive Verb where
  | http | tcp | blob | file | redis | sql | iplookup | nslookup | info | header | connection
  deriving DecidableEq, Repr

namespace Verb

def all : List Verb :=
  [http, tcp, blob, file, redis, sql, iplookup, nslookup, info, header, connection]

def name : Verb → String
  | http => "HTTP"
  | tcp => "TCP"
  | blob => "BLOB"
  | file => "FILE"
  | redis => "REDIS"
  | sql => "SQL"
  | iplookup => "IPLOOKUP"
  | nslookup => "NSLOOKUP"
  | info => "INFO"
  | header => "HEADER"
  | connection => "CONNECTION"

def ofName? (s : String) : Option Verb := all.find? fun v => v.name == s

theorem mem_all (v : Verb) : v ∈ all := by cases v <;> decide

theorem ofName?_name (v : Verb) : ofName? v.name = some v := by cases v <;> decide

end Verb
end HopProbe
