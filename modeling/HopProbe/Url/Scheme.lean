/-!
# Schemes

Six schemes are special: they always have a path, treat a backslash as a
slash and, `file` apart, need a host. Five of them have a default port.
-/

set_option autoImplicit false

namespace HopProbe.Url

inductive SchemeKind where
  | file
  /-- A special scheme with hosts, and its default port. -/
  | special (port : Nat)
  | plain
  deriving DecidableEq, Repr

def SchemeKind.of (scheme : String) : SchemeKind :=
  match scheme with
  | "file" => .file
  | "http" => .special 80
  | "ws" => .special 80
  | "https" => .special 443
  | "wss" => .special 443
  | "ftp" => .special 21
  | _ => .plain

def SchemeKind.isSpecial : SchemeKind → Bool
  | .plain => false
  | _ => true

def SchemeKind.defaultPort : SchemeKind → Option Nat
  | .special port => some port
  | _ => none

def SchemeKind.isSlash (kind : SchemeKind) (c : Char) : Bool :=
  c == '/' || (kind.isSpecial && c == '\\')

end HopProbe.Url
