import HopProbe.Text.Base64
import HopProbe.Text.Utf8

/-!
# Content as text

Content that is text is shown as it is, all other content in base 64 behind a
mark.
-/

set_option autoImplicit false

namespace HopProbe.Blob
open HopProbe.Text

def binaryMark : String := "base64:"

def contentText (content : List UInt8) : String :=
  match Utf8.text? content with
  | some text => text
  | none => binaryMark ++ Base64.text content

end HopProbe.Blob
