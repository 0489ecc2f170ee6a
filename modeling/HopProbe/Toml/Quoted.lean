import HopProbe.Text.Natural
import HopProbe.Toml.Line

/-!
# String literals of TOML

A literal has one quote or three, and escapes or none. With three quotes it
may run over lines: a line end right behind the opening quotes is dropped, an
escaped one is dropped with the blanks after it, and two quotes in front of
the closing ones still belong to the text.
-/

set_option autoImplicit false

namespace HopProbe.Toml.Quoted
open HopProbe.Text

def short? (c : Char) : Option Char :=
  if c = '"' then some '"'
  else if c = '\\' then some '\\'
  else if c = 'b' then some '\x08'
  else if c = 't' then some '\t'
  else if c = 'n' then some '\n'
  else if c = 'f' then some '\x0c'
  else if c = 'r' then some '\r'
  else if c = 'e' then some '\x1b'
  else none

def hexNumber? (cs : List Char) : Option Nat :=
  cs.foldlM (fun n c => (hexValue? c).map (n * 16 + ·)) 0

def scalar? (cs : List Char) : Option Char :=
  (hexNumber? cs).bind fun n => if n.isValidChar then some (Char.ofNat n) else none

def escape? : List Char → Option (Char × List Char)
  | 'x' :: a :: b :: rest => (scalar? [a, b]).map (·, rest)
  | 'u' :: a :: b :: c :: d :: rest => (scalar? [a, b, c, d]).map (·, rest)
  | 'U' :: a :: b :: c :: d :: e :: f :: g :: h :: rest =>
    (scalar? [a, b, c, d, e, f, g, h]).map (·, rest)
  | c :: rest => (short? c).map (·, rest)
  | [] => none

def escapedBreak? (cs : List Char) : Option (List Char) :=
  (newline? (skipSpaces cs)).map skipBlankLines

theorem rest_eq_of_map {found : Option Char} {c : Char} {rest rest' : List Char}
    (h : found.map (·, rest) = some (c, rest')) : rest' = rest := by
  cases found <;> simp_all

theorem length_of_escape? {cs rest : List Char} {c : Char} (h : escape? cs = some (c, rest)) :
    rest.length < cs.length := by
  unfold escape? at h
  split at h
  all_goals first | (cases rest_eq_of_map h; simp) | simp at h
  all_goals omega

theorem length_of_escapedBreak? {cs rest : List Char} (h : escapedBreak? cs = some rest) :
    rest.length < cs.length := by
  unfold escapedBreak? at h
  obtain ⟨a, ha, rfl⟩ := Option.map_eq_some_iff.1 h
  have := length_of_newline? ha
  have := length_skipSpaces_le cs
  have := length_skipBlankLines_le a
  omega

def prepend (c : Char) (r : List Char × List Char) : List Char × List Char := (c :: r.1, r.2)

def basic? (cs : List Char) : Option (List Char × List Char) :=
  match cs with
  | [] => none
  | '"' :: rest => some ([], rest)
  | '\\' :: rest =>
    match _h : escape? rest with
    | some (c, after) => (basic? after).map (prepend c)
    | none => none
  | c :: rest => if isPrintable c then (basic? rest).map (prepend c) else none
termination_by cs.length
decreasing_by
  · have := length_of_escape? _h
    simp only [List.length_cons]
    omega
  · simp

def multiBasic? (cs : List Char) : Option (List Char × List Char) :=
  match cs with
  | [] => none
  | '"' :: '"' :: '"' :: '"' :: '"' :: rest => some (['"', '"'], rest)
  | '"' :: '"' :: '"' :: '"' :: rest => some (['"'], rest)
  | '"' :: '"' :: '"' :: rest => some ([], rest)
  | '\\' :: rest =>
    match _h : escapedBreak? rest with
    | some after => multiBasic? after
    | none =>
      match _h : escape? rest with
      | some (c, after) => (multiBasic? after).map (prepend c)
      | none => none
  | '\r' :: '\n' :: rest => (multiBasic? rest).map (prepend '\n')
  | c :: rest => if isPrintable c || c == '\n' then (multiBasic? rest).map (prepend c) else none
termination_by cs.length
decreasing_by
  · have := length_of_escapedBreak? _h
    simp only [List.length_cons]
    omega
  · have := length_of_escape? _h
    simp only [List.length_cons]
    omega
  · simp only [List.length_cons]
    omega
  · simp

def literal? : List Char → Option (List Char × List Char)
  | [] => none
  | '\'' :: rest => some ([], rest)
  | c :: rest => if isPrintable c then (literal? rest).map (prepend c) else none

def multiLiteral? : List Char → Option (List Char × List Char)
  | [] => none
  | '\'' :: '\'' :: '\'' :: '\'' :: '\'' :: rest => some (['\'', '\''], rest)
  | '\'' :: '\'' :: '\'' :: '\'' :: rest => some (['\''], rest)
  | '\'' :: '\'' :: '\'' :: rest => some ([], rest)
  | '\r' :: '\n' :: rest => (multiLiteral? rest).map (prepend '\n')
  | c :: rest => if isPrintable c || c == '\n' then (multiLiteral? rest).map (prepend c) else none

def withoutBreak (cs : List Char) : List Char := (newline? cs).getD cs

def line? : List Char → Option (List Char × List Char)
  | '"' :: rest => basic? rest
  | '\'' :: rest => literal? rest
  | _ => none

def text? : List Char → Option (List Char × List Char)
  | '"' :: '"' :: '"' :: rest => multiBasic? (withoutBreak rest)
  | '\'' :: '\'' :: '\'' :: rest => multiLiteral? (withoutBreak rest)
  | cs => line? cs

end HopProbe.Toml.Quoted
