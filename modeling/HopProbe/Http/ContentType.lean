import HopProbe.Http.Header

/-!
# Declared media types

A media type is two tokens with a slash between them, and parameters. Blanks
stand only before the name of a parameter and behind a quoted value. What does
not follow these rules to its end declares nothing.
-/

set_option autoImplicit false

namespace HopProbe.Http.ContentType
open HopProbe.Text

structure Parameter where
  name : List Char
  value : List Char
  deriving DecidableEq, Repr

def isQuotedChar (c : Char) : Bool := 31 < c.toNat && c.toNat != 127

/-- What stands inside quotes, and what follows them. A quote right behind the
opening one does not close. -/
def quoted? : List Char → Option (List Char × List Char)
  | [] => none
  | c :: cs =>
    if isQuotedChar c then
      match cutFirst '"' cs with
      | some (value, rest) => if value.all isQuotedChar then some (c :: value, rest) else none
      | none => none
    else none

def value? (cs : List Char) : Option (List Char × Option (List Char)) :=
  match cs with
  | '"' :: cs => do
    let (value, rest) ← quoted? cs
    match rest.dropWhile (· == ' ') with
    | [] => some (value, none)
    | ';' :: rest => some (value, some rest)
    | _ => none
  | cs =>
    let value := cs.takeWhile isTokenChar
    match cs.drop value.length with
    | [] => some (value, none)
    | ';' :: rest => if value.isEmpty then none else some (value, some rest)
    | _ => none

/-- The parameters behind the first semicolon. Each takes at least one
character, so the number of characters is fuel enough. -/
def parameters? : Nat → List Char → Option (List Parameter)
  | 0, _ => none
  | fuel + 1, cs =>
    match cs.dropWhile (· == ' ') with
    | [] => some []
    | cs =>
      let name := cs.takeWhile isTokenChar
      match cs.drop name.length with
      | '=' :: rest =>
        if name.isEmpty then none
        else do
          let (value, rest) ← value? rest
          match rest with
          | none => some [⟨name, value⟩]
          | some rest => (parameters? fuel rest).map (⟨name, value⟩ :: ·)
      | _ => none

def read? (text : String) : Option (List Parameter) := do
  let (type, rest) ← cutFirst '/' text.toList
  let (subtype, rest) := (cutFirst ';' rest).getD (rest, [])
  if type.isEmpty ∨ subtype.isEmpty then none
  else if (type ++ subtype).all isTokenChar then parameters? (rest.length + 1) rest
  else none

def charset? (text : String) : Option String := do
  let parameters ← read? text
  let found ← parameters.find? fun p => sameLetters (String.ofList p.name) "charset"
  some (String.ofList found.value)

end HopProbe.Http.ContentType
