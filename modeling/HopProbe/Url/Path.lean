import HopProbe.Text.Cut
import HopProbe.Url.Percent
import HopProbe.Url.Scheme

/-!
# Paths

A path is a list of segments. A segment of one dot goes nowhere, one of two
dots goes back to the segment before; either leaves an empty segment behind
when it is the last. A percent-encoded dot counts as a dot.
-/

set_option autoImplicit false

namespace HopProbe.Url
open HopProbe.Text

def dotsShown : List Char → List Char
  | '%' :: '2' :: e :: rest =>
    if e = 'e' ∨ e = 'E' then '.' :: dotsShown rest else '%' :: '2' :: e :: dotsShown rest
  | c :: rest => c :: dotsShown rest
  | [] => []

def isSingleDot (segment : List Char) : Bool := dotsShown segment == ['.']

def isDoubleDot (segment : List Char) : Bool := dotsShown segment == ['.', '.']

/-- Tabs and line breaks do not count. -/
def isIgnored (c : Char) : Bool := c == '\t' || c == '\n' || c == '\r'

def counted (cs : List Char) : List Char := cs.filter (! isIgnored ·)

def skipCounted : Nat → List Char → List Char
  | 0, cs => cs
  | _, [] => []
  | n + 1, c :: cs => if isIgnored c then skipCounted (n + 1) cs else skipCounted n cs

/-- A letter and a colon or a bar, up to a backslash: such a segment is never
taken back. -/
def isDrive (segment : List Char) : Bool :=
  match segment with
  | [c, d] => c.isAlpha && (d == ':' || d == '|')
  | c :: d :: '\\' :: _ => c.isAlpha && (d == ':' || d == '|')
  | _ => false

def driveLetter? (segment : List Char) : Option Char :=
  match segment with
  | [c, d] => if c.isAlpha ∧ (d = ':' ∨ d = '|') then some c else none
  | _ => none

/-- A path gone through so far, and whether it began with a drive. -/
structure Way where
  segments : List (List Char)
  metDrive : Bool
  deriving DecidableEq, Repr

namespace Way

def parent (w : Way) : Way :=
  match w.segments.getLast? with
  | some last => if isDrive last then w else { w with segments := w.segments.dropLast }
  | none => w

/-- The first segment of a file may be a drive, which is written with a colon. -/
def append (kind : SchemeKind) (w : Way) (segment : List Char) : Way :=
  match if kind = .file ∧ w.segments = [] then driveLetter? segment else none with
  | some c => ⟨[[c, ':']], true⟩
  | none => { w with segments := w.segments ++ [segment] }

def enter (kind : SchemeKind) (w : Way) (segment : List Char) : Way :=
  if isDoubleDot segment then w.parent
  else if isSingleDot segment then w
  else w.append kind segment

def arrive (kind : SchemeKind) (w : Way) (segment : List Char) : Way :=
  if isDoubleDot segment then w.parent.append kind []
  else if isSingleDot segment then w.append kind []
  else w.append kind segment

/-- A drive that a character which does not count parts from the rest of the
first segment of a file. -/
def cutDrive? (kind : SchemeKind) (w : Way) (piece : List Char) : Option (Char × List Char) :=
  match counted piece with
  | c :: ':' :: d :: rest =>
    if kind = .file ∧ w.segments = [] ∧ c.isAlpha ∧ (skipCounted 2 piece).head?.any isIgnored then
      some (c, d :: rest)
    else none
  | _ => none

def take (kind : SchemeKind) (encode : List Char → List Char) (isLast : Bool) (w : Way)
    (piece : List Char) : Way :=
  match w.cutDrive? kind piece with
  | some (c, rest) => { w with segments := [[c, ':'], encode rest] }
  | none =>
    let segment := encode (counted piece)
    if isLast then w.arrive kind segment else w.enter kind segment

def walk (kind : SchemeKind) (w : Way) : List (List Char) → Way
  | [] => w
  | [last] => w.take kind (Percent.encode Percent.path) true last
  | piece :: rest => walk kind (w.take kind (Percent.encode Percent.path) false piece) rest

end Way

def slashPieces (kind : SchemeKind) (cs : List Char) : List (List Char) :=
  pieces '/' (cs.map fun c => if kind.isSlash c then '/' else c)

/-- A file has no empty segment in front of others. -/
def fileSegments (segments : List (List Char)) : List (List Char) :=
  match segments with
  | [] :: s :: rest => fileSegments (s :: rest)
  | segments => segments

def wayOf (kind : SchemeKind) (cs : List Char) : Way :=
  let w := Way.walk kind ⟨[], false⟩ (slashPieces kind cs)
  if kind = .file then { w with segments := fileSegments w.segments } else w

def segmentsOf (kind : SchemeKind) (cs : List Char) : List (List Char) := (wayOf kind cs).segments

end HopProbe.Url
