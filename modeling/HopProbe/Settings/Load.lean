import HopProbe.Settings.Table
import HopProbe.World.FileSystem
import HopProbe.World.Machine

/-!
# Loading settings

Settings come from a file that is named, and then must be there, or from the
usual place, where there need not be one.
-/

set_option autoImplicit false

namespace HopProbe
open HopProbe.Text

inductive SettingsError where
  | absent (path : String)
  | unreadable (path : String)
  | malformed (path : String)
  | invalid (path : String) (defect : Settings.Defect)
  deriving DecidableEq, Repr

namespace SettingsError

def message : SettingsError → String
  | .absent path => "config file " ++ path ++ " does not exist"
  | .unreadable path => "failed to read config " ++ path
  | .malformed path => "failed to parse config " ++ path
  | .invalid path _ => "invalid config " ++ path

def defect? : SettingsError → Option Settings.Defect
  | .invalid _ defect => some defect
  | _ => none

end SettingsError

namespace Settings

def ofBytes (path : String) (content : List UInt8) : Except SettingsError Settings :=
  match Utf8.decode? content with
  | none => .error (.unreadable path)
  | some text =>
    match ofText? text with
    | none => .error (.malformed path)
    | some settings =>
      match settings.defect? with
      | some defect => .error (.invalid path defect)
      | none => .ok settings

/-- The settings in a file. Without the file, the defaults hold. -/
def load (files : FileSystem) (path : List UInt8) : Except SettingsError Settings :=
  if files.contains path then
    match files.readFile path with
    | .error _ => .error (.unreadable (Utf8.textLossy path))
    | .ok content => ofBytes (Utf8.textLossy path) content
  else .ok default

def below (directory : List UInt8) (name : String) : List UInt8 :=
  if FileSystem.hasSlashEnd directory then directory ++ Utf8.bytes name
  else directory ++ FileSystem.slash :: Utf8.bytes name

def value? (environment : Environment) (name : String) : Option (List UInt8) :=
  (environment.find? fun (key, _) => key == Utf8.bytes name).map Prod.snd

def directory? (environment : Environment) : Option (List UInt8) :=
  match (value? environment "XDG_CONFIG_HOME").filter FileSystem.isAbsolute with
  | some directory => some directory
  | none => ((value? environment "HOME").filter (! ·.isEmpty)).map (below · ".config")

def usualPath? (environment : Environment) : Option (List UInt8) :=
  (directory? environment).map fun directory =>
    below (below directory "relayprobe") "config.toml"

def resolve (files : FileSystem) (environment : Environment) :
    Option String → Except SettingsError Settings
  | some path =>
    if files.contains (Utf8.bytes path) then load files (Utf8.bytes path) else .error (.absent path)
  | none =>
    match usualPath? environment with
    | some path => load files path
    | none => .ok default

end Settings
end HopProbe
