import HopProbe.Text.Ascii
import HopProbe.Text.Blank
import HopProbe.Text.Utf16
import HopProbe.Url.Form

/-!
# The text of a request body

A body is UTF-8 unless a byte order mark or the declared charset makes it
UTF-16 with the low byte first. Neither encoding can fail: damage shows as
U+FFFD. A form is flattened back into the text that was put into it.
-/

set_option autoImplicit false

namespace HopProbe.Service
open HopProbe.Text

def mediaType (contentType : String) : String :=
  let cs := contentType.toList
  lower (String.ofList (trimmed (((cutFirst ';' cs).map Prod.fst).getD cs)))

def isQuote (c : Char) : Bool := c == '"'

def parameterNamesUtf16 (parameter : List Char) : Bool :=
  match cutFirst '=' parameter with
  | none => false
  | some (name, value) =>
    let charset := lower (String.ofList (dropEndWhile isQuote ((trimmed value).dropWhile isQuote)))
    sameLetters (String.ofList (trimmed name)) "charset" &&
      (charset == "utf-16" || charset == "utf-16le")

def declaresUtf16 (contentType : String) : Bool :=
  ((pieces ';' contentType.toList).drop 1).any parameterNamesUtf16

def withoutMark : List UInt8 → List UInt8
  | 0xEF :: 0xBB :: 0xBF :: rest => rest
  | bs => bs

def characters (contentType : String) (body : List UInt8) : List Char :=
  match body with
  | 0xFF :: 0xFE :: rest => Utf16.decodeLE rest
  | _ =>
    if declaresUtf16 contentType then Utf16.decodeLE body
    else Utf8.decodeLossy (withoutMark body)

def isForm (contentType : String) : Bool :=
  mediaType contentType == "application/x-www-form-urlencoded"

/-- Names and values one after the other, the value behind an equals sign unless it is empty. -/
def flattened (pairs : List (List Char × List Char)) : List Char :=
  pairs.flatMap fun (name, value) => if value.isEmpty then name else name ++ '=' :: value

/-- A form without any pair is left as it is. -/
def decodeBody (contentType : Option String) (body : List UInt8) : List Char :=
  let declared := contentType.getD ""
  let text := characters declared body
  if isForm declared then
    match Url.Form.pairs (Utf8.encode text) with
    | [] => text
    | pairs => flattened pairs
  else text

end HopProbe.Service
