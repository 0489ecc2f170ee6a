import HopProbe.Text.Ascii
import HopProbe.Text.Charset.CodePage
import HopProbe.Text.Charset.Escaped
import HopProbe.Text.Utf16
import HopProbe.Text.Utf8

/-!
# Character sets

A byte order mark names the encoding of a text and is no part of it. Without
one the declared label does, and an unknown label means UTF-8.
-/

set_option autoImplicit false

namespace HopProbe.Text

inductive Charset where
  | utf8
  | utf16le
  | utf16be
  | page (upper : CodeIndex)
  | gb18030
  | big5
  | eucJp
  | iso2022Jp
  | shiftJis
  | eucKr
  /-- Upper bytes stand for characters of private use. -/
  | userDefined
  /-- Charsets in which ASCII is not safe; their texts are not read. -/
  | unreadable
  deriving DecidableEq, Repr

namespace Charset

def labels : List (Charset × List String) := [
  (.utf16le, ["utf-16", "utf-16le", "unicode", "ucs-2", "iso-10646-ucs-2", "csunicode",
    "unicodefeff"]),
  (.utf16be, ["utf-16be", "unicodefffe"]),
  (.gb18030, ["gb18030", "gbk", "gb2312", "gb_2312", "gb_2312-80", "chinese", "csgb2312",
    "csiso58gb231280", "iso-ir-58", "x-gbk"]),
  (.big5, ["big5", "big5-hkscs", "cn-big5", "csbig5", "x-x-big5"]),
  (.eucJp, ["euc-jp", "cseucpkdfmtjapanese", "x-euc-jp"]),
  (.iso2022Jp, ["iso-2022-jp", "csiso2022jp"]),
  (.shiftJis, ["shift_jis", "shift-jis", "sjis", "x-sjis", "ms932", "ms_kanji", "windows-31j",
    "csshiftjis"]),
  (.eucKr, ["euc-kr", "cseuckr", "csksc56011987", "iso-ir-149", "korean", "ks_c_5601-1987",
    "ks_c_5601-1989", "ksc5601", "ksc_5601", "windows-949"]),
  (.unreadable, ["replacement", "csiso2022kr", "hz-gb-2312", "iso-2022-cn", "iso-2022-cn-ext",
    "iso-2022-kr"]),
  (.userDefined, ["x-user-defined"])]

def isLabelBlank (c : Char) : Bool := [' ', '\t', '\n', '\x0C', '\r'].contains c

def ofLabel (label : String) : Charset :=
  let label := lower (String.ofList (dropEndWhile isLabelBlank (label.toList.dropWhile isLabelBlank)))
  match labels.find? fun (_, names) => names.contains label with
  | some (charset, _) => charset
  | none =>
    match CodePage.all.find? fun p => p.labels.contains label with
    | some p => .page p.upper
    | none => .utf8

/-- Code units and the bytes they were read from. A last byte without a partner
and a pair that it breaks off are one U+FFFD together. -/
def decodeUnits (us : List UInt16) (bs : List UInt8) : List Char :=
  Utf16.decode us ++ if us.getLast?.any Utf16.isHigh then [] else Utf16.tail bs

def userChar (b : UInt8) : Char :=
  if isAscii b then asciiChar b else Char.ofNat (0xF780 + (b.toNat - 0x80))

def decodeAs : Charset → List UInt8 → List Char
  | .utf8, bs => Utf8.decodeLossy bs
  | .utf16le, bs => decodeUnits (Utf16.unitsLE bs) bs
  | .utf16be, bs => decodeUnits (Utf16.unitsBE bs) bs
  | .page upper, bs => bs.map (CodePage.char upper)
  | .gb18030, bs => decodeWith gbStep bs
  | .big5, bs => decodeWith bigStep bs
  | .eucJp, bs => decodeWith eucJpStep bs
  | .iso2022Jp, bs => Escaped.decode bs
  | .shiftJis, bs => decodeWith shiftJisStep bs
  | .eucKr, bs => decodeWith eucKrStep bs
  | .userDefined, bs => bs.map userChar
  | .unreadable, bs => if bs.isEmpty then [] else broken

def decode (declared : Charset) : List UInt8 → List Char
  | 0xEF :: 0xBB :: 0xBF :: rest => decodeAs .utf8 rest
  | 0xFF :: 0xFE :: rest => decodeAs .utf16le rest
  | 0xFE :: 0xFF :: rest => decodeAs .utf16be rest
  | bs => decodeAs declared bs

end Charset
end HopProbe.Text
