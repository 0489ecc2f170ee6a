import HopProbe.KeyValue.Endpoint
import HopProbe.Text.Natural
import HopProbe.Url.Form
import HopProbe.World.Effect

/-!
# Sessions with a key-value store

A session is opened with the host, the credentials and the database that a URL
names. A user without a password is not sent. A URL may also name a socket by
its file; no file here is one. Whatever the store is sent, its reply can fail to
arrive.
-/

set_option autoImplicit false

namespace HopProbe.KeyValue
open HopProbe.Text

inductive Place where
  | network (host : String) (port : Nat)
  /-- Over an encrypted connection, which may be asked not to be checked. -/
  | encrypted (host : String) (port : Nat) (unchecked : Bool)
  | socket (path : List UInt8)
  deriving DecidableEq, Repr

structure Target where
  place : Place
  session : StoreSession
  deriving DecidableEq, Repr

def configurationError (what : String) : String := what ++ "- InvalidClientConfig"

def hostName : Url.Host → String
  | .v6 groups => String.ofList (IpAddress.compressed groups)
  | host => host.text

def isSlash (c : Char) : Bool := c == '/'

def databaseNumber (digits : List Char) : Except String Int :=
  match readInteger (twoTo 63) digits with
  | .ok n => .ok n
  | .error _ => .error (configurationError "Invalid database number")

def database (path : String) : Except String Int :=
  match dropEndWhile isSlash (path.toList.dropWhile isSlash) with
  | [] => .ok 0
  | digits => databaseNumber digits

/-- The value of the last pair of a name in the query of a URL. -/
def queryValue? (u : Url) (name : String) : Option (List Char) :=
  ((Url.Form.pairs (Utf8.bytes (u.query.getD ""))).reverse.find? fun (n, _) => n == name.toList).map
    Prod.snd

def knownProtocol (u : Url) : Except String Unit :=
  match (queryValue? u "protocol").map String.ofList with
  | none | some "2" | some "resp2" | some "3" | some "resp3" => .ok ()
  | some version => .error ("Invalid protocol version - InvalidClientConfig: " ++ version)

def knownFragment (u : Url) : Except String Unit :=
  if u.scheme = "rediss" ∧ u.fragment.any (· != "insecure") then
    .error (configurationError "only #insecure is supported as URL fragment")
  else .ok ()

def decoded (part text : String) : Except String String :=
  match Utf8.text? (Url.Percent.decode text.toList) with
  | some s => .ok s
  | none => .error (configurationError (part ++ " is not valid UTF-8 string"))

def user (u : Url) : Except String (Option String) :=
  if u.username = "" then .ok none else (decoded "Username" u.username).map some

def password (u : Url) : Except String (Option String) :=
  match u.password with
  | some p => (decoded "Password" p).map some
  | none => .ok none

/-- The session of a user, who is sent with a password only. -/
def sessionOf (user password : Option String) (database : Int) : StoreSession :=
  ⟨if password.isSome then user else none, password, database⟩

def placeOf (u : Url) (host : Url.Host) : Place :=
  let port := u.port.getD 6379
  if u.scheme = "rediss" then .encrypted (hostName host) port (u.fragment == some "insecure")
  else .network (hostName host) port

def ofNetworkUrl (u : Url) : Except String Target := do
  let host ← match u.host with
    | some host =>
      if host.isEmpty then throw (configurationError "Missing hostname") else pure host
    | none => throw (configurationError "Missing hostname")
  knownFragment u
  let database ← database u.pathText
  let user ← user u
  let password ← password u
  knownProtocol u
  return ⟨placeOf u host, sessionOf user password database⟩

/-- A path that ends like the name of a drive gets a slash. -/
def closedDrive (path : List UInt8) : List UInt8 :=
  match path.reverse with
  | mark :: letter :: _ =>
    if (mark == 0x3A || mark == 0x7C) && (Char.ofNat letter.toNat).isAlpha then path ++ [0x2F]
    else path
  | _ => path

def filePath? (u : Url) : Option (List UInt8) :=
  if u.hasHost ∧ u.host.map Url.Host.text ≠ some "localhost" then none
  else match u.route with
    | .segments (first :: rest) =>
      some (closedDrive ((first :: rest).flatMap fun part => 0x2F :: Url.Percent.decode part))
    | _ => none

def ofSocketUrl (u : Url) : Except String Target := do
  let path ← match filePath? u with
    | some path => pure path
    | none => throw (configurationError "Missing path")
  let database ← match queryValue? u "db" with
    | some digits => databaseNumber digits
    | none => pure 0
  knownProtocol u
  let user := (queryValue? u "user").map String.ofList
  let password := (queryValue? u "pass").map String.ofList
  return ⟨.socket path, sessionOf user password database⟩

def readUrl (text : String) : Except String Target :=
  match Url.parse text with
  | .ok u =>
    if u.scheme = "redis" ∨ u.scheme = "rediss" then ofNetworkUrl u
    else if u.scheme = "redis+unix" ∨ u.scheme = "unix" then ofSocketUrl u
    else .error (configurationError "Redis URL did not parse")
  | .error _ => .error (configurationError "Redis URL did not parse")

def targetOf (endpoint : String) : Except String Target :=
  match urlText endpoint with
  | .ok text => readUrl text
  | .error e => .error e.message

/-- A store without a password accepts any credentials. -/
def accepts (store : Store) (session : StoreSession) : Bool :=
  match store.password, session.password with
  | some wanted, some given =>
    wanted == given && (session.user.isNone || session.user == some store.user)
  | _, _ => true

def authenticationFailed : String := "Password authentication failed- AuthenticationFailed"

def noSuchDatabase : String :=
  "Redis server refused to switch database - ResponseError: DB index is out of range"

def authenticationRequired : String := "NOAUTH: Authentication required."

def errorName? : String → Option String
  | "ERR" => some "ResponseError"
  | "EXECABORT" => some "ExecAbortError"
  | "LOADING" => some "BusyLoadingError"
  | "NOSCRIPT" => some "NoScriptError"
  | "MOVED" => some "Moved"
  | "ASK" => some "Ask"
  | "TRYAGAIN" => some "TryAgain"
  | "CLUSTERDOWN" => some "ClusterDown"
  | "CROSSSLOT" => some "CrossSlot"
  | "MASTERDOWN" => some "MasterDown"
  | "READONLY" => some "ReadOnly"
  | "NOTBUSY" => some "NotBusy"
  | "NOSUB" => some "NoSub"
  | _ => none

def codedErrorText (code : String) (detail : Option String) : String :=
  match errorName? code, detail with
  | some name, some detail => "An error was signalled by the server - " ++ name ++ ": " ++ detail
  | some name, none => "An error was signalled by the server- " ++ name
  | none, detail => code ++ ": " ++ detail.getD "Unknown extension error encountered"

/-- An error as a store words it, a code in front, with the code set apart. -/
def errorText (text : String) : String :=
  match cutFirst ' ' text.toList with
  | some (code, detail) => codedErrorText (String.ofList code) (some (String.ofList detail))
  | none => codedErrorText text none

def admission (store : Store) (session : StoreSession) : Except String Unit :=
  if accepts store session then
    if 0 ≤ session.database ∧ session.database < Store.databases then .ok ()
    else .error noSuchDatabase
  else .error authenticationFailed

def socketError (files : FileSystem) (path : List UInt8) : IoError :=
  if path.contains 0 then .described "paths must not contain interior null bytes"
  else if 108 ≤ path.length then .described "path must be shorter than SUN_LEN"
  else match files.stat path with
    | .ok _ => .connectionRefused
    | .error e => e

def said (e : IoError) : Fault := .keyValue e.message

/-- No client can be made that does not check whom it speaks to. -/
def uncheckedClient : String :=
  configurationError "Cannot create insecure client without tls-rustls-insecure feature"

def connect : Place → Effect Unit
  | .network host port => do
    Effect.record (.connect host port)
    let w ← get
    Effect.ofExcept said (w.meetsStore host port)
  | .encrypted host port unchecked => do
    Effect.record (.connect host port)
    let w ← get
    let _ ← Effect.ofExcept said (w.addresses host)
    if unchecked then Effect.fault (.keyValue uncheckedClient)
    else Effect.ofExcept said (w.meetsStoreEncrypted host port)
  | .socket path => do
    Effect.fault (said (socketError (← get).files path))

def await : Conduct → Effect Unit
  | .answers => return ()
  | .loses _ .silence => throw .unanswered
  | .loses _ .ending => Effect.fault (said .brokenPipe)
  | .loses _ (.breakage number) => Effect.fault (said (.os number))

def start (endpoint : String) : Effect StoreSession := do
  let target ← Effect.ofExcept Fault.keyValue (targetOf endpoint)
  connect target.place
  let w ← get
  await (w.conduct w.events)
  Effect.ofExcept Fault.keyValue (admission w.store target.session)
  return target.session

def permits (store : Store) (session : StoreSession) (key : String) : Except String Unit :=
  match store.errors.find? fun (k, _) => k == key with
  | some (_, text) => .error (errorText text)
  | none =>
    if store.password.isSome ∧ session.password = none then .error authenticationRequired
    else .ok ()

def read (session : StoreSession) (key : String) : Effect (Option String) := do
  Effect.record (.store session (.get key))
  let w ← get
  await (w.conduct w.events)
  Effect.ofExcept Fault.keyValue (permits w.store session key)
  return w.store.get? session.database key

/-- The value is stored before the reply to it can be lost. -/
def write (session : StoreSession) (key value : String) : Effect Unit := do
  Effect.record (.store session (.set key value))
  let w ← get
  let conduct := w.conduct w.events
  let permitted := permits w.store session key
  if permitted.isOk && conduct.applies then
    set { w with store := w.store.put session.database key value }
  await conduct
  Effect.ofExcept Fault.keyValue permitted

end HopProbe.KeyValue
