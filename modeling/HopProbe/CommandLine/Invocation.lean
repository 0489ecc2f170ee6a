import HopProbe.CommandLine.Slot
import HopProbe.Text.Cut

/-!
# Invocations

The words of a command line, read from the left. A command has options of its
own; the one for the settings file may stand before a command and behind it,
and then the one behind counts. A value that stands in a word of its own is
looked at when the next option is known, so a word that is no option of the
command is refused first.
-/

set_option autoImplicit false

namespace HopProbe.CommandLine
open HopProbe.Text

inductive Command where
  | serve (bind : Option String) (port : Option Nat)
  | run (script : String)
  | verbs
  deriving DecidableEq, Repr

structure Invocation where
  config : Option String
  command : Command
  deriving DecidableEq, Repr

inductive Stop where
  | refused (why : Refusal)
  | version
  | help
  deriving DecidableEq, Repr

inductive Scope where
  | program
  | serve
  | run
  | verbs
  deriving DecidableEq, Repr

def Scope.ofCommand? : String → Option Scope
  | "serve" => some .serve
  | "run" => some .run
  | "verbs" => some .verbs
  | _ => none

def isCommandWord (word : String) : Bool := word == "help" || (Scope.ofCommand? word).isSome

inductive Switch where
  | value (slot : Slot)
  | version
  | help
  deriving DecidableEq, Repr

def Switch.long : Scope → String → Option Switch
  | _, "config" => some (.value .config)
  | _, "help" => some .help
  | .program, "version" => some .version
  | .serve, "bind" => some (.value .bind)
  | .serve, "port" => some (.value .port)
  | _, _ => none

def Switch.short : Scope → Char → Option Switch
  | _, 'c' => some (.value .config)
  | _, 'h' => some .help
  | .program, 'V' => some .version
  | .serve, 'p' => some (.value .port)
  | _, _ => none

structure Progress where
  values : Values
  /-- A slot named last, with its value unless that is still to come. -/
  pending : Option (Slot × Option String)
  /-- Whether options are over. -/
  plain : Bool
  /-- Whether the place of the script is taken. -/
  placed : Bool
  deriving DecidableEq, Repr

namespace Progress

def start : Progress := ⟨.empty, none, false, false⟩

def settle (p : Progress) : Except Refusal Progress :=
  match p.pending with
  | none => .ok p
  | some (slot, none) => .error (.noValue slot)
  | some (slot, some text) =>
    (p.values.fill slot text).map fun values => { p with values, pending := none }

def await (p : Progress) (slot : Slot) : Except Refusal Progress :=
  p.settle.map fun p => { p with pending := some (slot, none) }

def attach (p : Progress) (slot : Slot) (text : String) : Except Refusal Progress := do
  let p ← p.settle
  (p.values.fill slot text).map fun values => { p with values }

/-- The slot that takes the next word, whatever it is. -/
def awaited (p : Progress) : Option Slot :=
  match p.pending with
  | some (slot, none) => if p.plain then none else some slot
  | _ => none

end Progress

def applySwitch (p : Progress) (name : String) (value : Option String) :
    Switch → Except Stop Progress
  | .value slot =>
    (match value with
      | some text => p.attach slot text
      | none => p.await slot).mapError .refused
  | .version => stop .version
  | .help => stop .help
where
  stop (why : Stop) : Except Stop Progress :=
    match value with
    | some text => .error (.refused (.needlessValue text name))
    | none =>
      match p.settle with
      | .error refusal => .error (.refused refusal)
      | .ok _ => .error why

def readLong (scope : Scope) (p : Progress) (cs : List Char) : Except Stop Progress :=
  let (name, value) := match cutFirst '=' cs with
    | some (name, value) => (String.ofList name, some (String.ofList value))
    | none => (String.ofList cs, none)
  match Switch.long scope name with
  | some switch => applySwitch p ("--" ++ name) value switch
  | none => .error (.refused (.unexpected ("--" ++ name)))

/-- The value behind the letter of an option; an equals sign may stand between them. -/
def attached : List Char → Option String
  | [] => none
  | '=' :: rest => some (String.ofList rest)
  | cs => some (String.ofList cs)

def readShort (scope : Scope) (p : Progress) (letter : Char) (rest : List Char) :
    Except Stop Progress :=
  match Switch.short scope letter with
  | some (.value slot) => applySwitch p (String.ofList ['-', letter]) (attached rest) (.value slot)
  | some switch => applySwitch p (String.ofList ['-', letter]) none switch
  | none => .error (.refused (.unexpected (String.ofList ['-', letter])))

/-- A word that is no option and no value of one. -/
def readPlain (scope : Scope) (p : Progress) (word : String) : Except Stop Progress :=
  match scope with
  | .program =>
    if p.plain ∧ isCommandWord word then .error (.refused (.unexpected word))
    else .error (.refused (.unknownCommand word))
  | .run =>
    if p.placed then .error (.refused (.unexpected word))
    else (p.settle.map fun p =>
      { p with pending := some (.script, some word), placed := true }).mapError .refused
  | _ => .error (.refused (.unexpected word))

def readWord (scope : Scope) (p : Progress) (word : String) : Except Stop Progress :=
  if p.plain then readPlain scope p word
  else match word.toList, p.awaited with
    | ['-', '-'], _ => .ok { p with plain := true }
    | '-' :: '-' :: rest, _ => readLong scope p rest
    | '-' :: letter :: rest, _ => readShort scope p letter rest
    | _, some slot => .ok { p with pending := some (slot, some word) }
    | _, none => readPlain scope p word

def finish (scope : Scope) (p : Progress) : Except Refusal Invocation := do
  let p ← p.settle
  match scope, p.values.script with
  | .run, none => .error .incomplete
  | .run, some script => .ok ⟨p.values.config, .run script⟩
  | .verbs, _ => .ok ⟨p.values.config, .verbs⟩
  | _, _ => .ok ⟨p.values.config, .serve p.values.bind p.values.port⟩

def takesCommand (scope : Scope) (p : Progress) : Bool :=
  scope == .program && !p.plain && p.awaited.isNone

def command? (scope : Scope) (p : Progress) (word : String) : Option Scope :=
  if takesCommand scope p then Scope.ofCommand? word else none

def explain : List String → Stop
  | [] => .help
  | word :: rest =>
    if isCommandWord word then
      match rest with
      | [] => .help
      | below :: _ => .refused (.unknownCommand below)
    else .refused (.unknownCommand word)

def readWords (scope : Scope) (p : Progress) : List String → Except Stop Invocation
  | [] => (finish scope p).mapError .refused
  | word :: rest =>
    if word = "help" ∧ takesCommand scope p then .error (explain rest)
    else match command? scope p word with
    | some command => do
      let invocation ← readWords command .start rest
      let p ← p.settle.mapError .refused
      .ok { invocation with config := invocation.config <|> p.values.config }
    | none => do readWords scope (← readWord scope p word) rest

/-- Without a command the service is started. -/
def Invocation.parse (words : List String) : Except Stop Invocation :=
  readWords .program .start words

end HopProbe.CommandLine
