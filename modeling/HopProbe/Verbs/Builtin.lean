import HopProbe.Step.Registry
import HopProbe.Verbs.Blob
import HopProbe.Verbs.File
import HopProbe.Verbs.Http
import HopProbe.Verbs.Inbound
import HopProbe.Verbs.Info
import HopProbe.Verbs.IpLookup
import HopProbe.Verbs.NsLookup
import HopProbe.Verbs.Redis
import HopProbe.Verbs.Sql
import HopProbe.Verbs.Tcp

/-!
# The verbs of a probe
-/

set_option autoImplicit false

namespace HopProbe.Verbs

def builtinHandler : Verb → Handler World
  | .http => Http.probe.handler
  | .tcp => Tcp.probe.handler
  | .blob => Blob.probe.handler
  | .file => File.probe.handler
  | .redis => Redis.probe.handler
  | .sql => Sql.probe.handler
  | .iplookup => IpLookup.probe.handler
  | .nslookup => NsLookup.probe.handler
  | .info => Info.probe.handler
  | .header => Inbound.headerProbe.handler
  | .connection => Inbound.connectionProbe.handler

def builtin : Registry World := Registry.empty.registerAll (Verb.all.map builtinHandler)

theorem handler?_builtin (v : Verb) : builtin.handler? v = some (builtinHandler v) := by
  cases v <;> rfl

theorem execute_builtin (v : Verb) (args : List String) (context : Context) (w : World) :
    builtin.execute ⟨v.name, args⟩ context w = (builtinHandler v).execute args context w := by
  simp only [Registry.execute, Registry.resolve_name, handler?_builtin]

end HopProbe.Verbs
