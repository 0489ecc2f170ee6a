import HopProbe.Text.Charset.Index

/-!
# Code pages

Charsets of one byte for each character. The lower half of each is ASCII; the
upper half is given by an index.
-/

set_option autoImplicit false

namespace HopProbe.Text

structure CodePage where
  labels : List String
  upper : CodeIndex

namespace CodePage

def all : List CodePage := [
  ⟨["866", "cp866", "csibm866", "ibm866"],
    .ofText
  "А+47░▒▓│┤╡╢╖╕╣║╗╝╜╛┐└┴┬├─┼╞╟╚╔╩╦╠═╬╧╨╤╥╙╘╒╓╫╪┘┌█▄▌▐▀р+15ЁёЄєЇїЎў°∙·√№¤■\xa0"⟩,
  ⟨["csisolatin2", "iso-8859-2", "iso-ir-101", "iso8859-2", "iso88592", "iso_8859-2",
      "iso_8859-2:1987", "l2", "latin2"],
    .ofText
  "\x80+32Ą˘Ł¤ĽŚ§¨ŠŞŤŹ\xadŽŻ°ą˛ł´ľśˇ¸šşťź˝žżŔÁÂĂÄĹĆÇČÉĘËĚÍÎĎĐŃŇÓÔŐÖ×ŘŮÚŰÜÝŢßŕáâăäĺćçčéę
  ëěíîďđńňóôőö÷řůúűüýţ˙"⟩,
  ⟨["csisolatin3", "iso-8859-3", "iso-ir-109", "iso8859-3", "iso88593", "iso_8859-3",
      "iso_8859-3:1988", "l3", "latin3"],
    .ofText
  "\x80+32Ħ˘£¤-1Ĥ§¨İŞĞĴ\xad-1Ż°ħ²+3ĥ·¸ışğĵ½-1żÀÁÂ-1ÄĊĈÇ+8-1Ñ+3ĠÖ×ĜÙ+3ŬŜß+3-1äċĉç+8-1ñ+3
  ġö÷ĝù+3ŭŝ˙"⟩,
  ⟨["csisolatin4", "iso-8859-4", "iso-ir-110", "iso8859-4", "iso88594", "iso_8859-4",
      "iso_8859-4:1988", "l4", "latin4"],
    .ofText
  "\x80+32ĄĸŖ¤ĨĻ§¨ŠĒĢŦ\xadŽ¯°ą˛ŗ´ĩļˇ¸šēģŧŊžŋĀÁ+5ĮČÉĘËĖÍÎĪĐŅŌĶÔ+4ŲÚÛÜŨŪßāá+5įčéęëėíîīđņō
  ķô+4ųúûüũū˙"⟩,
  ⟨["csisolatincyrillic", "cyrillic", "iso-8859-5", "iso-ir-144", "iso8859-5", "iso88595",
      "iso_8859-5", "iso_8859-5:1988"],
    .ofText
  "\x80+32Ё+11\xadЎ+65№ё+11§ўџ"⟩,
  ⟨["arabic", "asmo-708", "csiso88596e", "csiso88596i", "csisolatinarabic", "ecma-114",
      "iso-8859-6", "iso-8859-6-e", "iso-8859-6-i", "iso-ir-127", "iso8859-6", "iso88596",
      "iso_8859-6", "iso_8859-6:1987"],
    .ofText
  "\x80+32-3¤-7،\xad-13؛-3؟-1ء+25-5ـ+18"⟩,
  ⟨["csisolatingreek", "ecma-118", "elot_928", "greek", "greek8", "iso-8859-7", "iso-ir-126",
      "iso8859-7", "iso88597", "iso_8859-7", "iso_8859-7:1987", "sun_eu_greek"],
    .ofText
  "\x80+32‘’£€₯¦+3ͺ«¬\xad-1―°+3΄΅Ά·ΈΉΊ»Ό½Ύ+19-1Σ+43"⟩,
  ⟨["csiso88598e", "csisolatinhebrew", "hebrew", "iso-8859-8", "iso-8859-8-e", "iso-ir-138",
      "iso8859-8", "iso88598", "iso_8859-8", "iso_8859-8:1988", "visual", "csiso88598i",
      "iso-8859-8-i", "logical"],
    .ofText
  "\x80+32-1¢+7×«+14÷»+3-32‗א+26-2\u200e\u200f"⟩,
  ⟨["csisolatin6", "iso-8859-10", "iso-ir-157", "iso8859-10", "iso885910", "l6", "latin6"],
    .ofText
  "\x80+32ĄĒĢĪĨĶ§ĻĐŠŦŽ\xadŪŊ°ąēģīĩķ·ļđšŧž―ūŋĀÁ+5ĮČÉĘËĖÍ+3ŅŌÓ+3ŨØŲÚ+5āá+5įčéęëėí+3ņōó+3ũ
  øųú+4ĸ"⟩,
  ⟨["iso-8859-13", "iso8859-13", "iso885913"],
    .ofText
  "\x80+32”¢£¤„¦§Ø©Ŗ«+3Æ°+3“µ¶·ø¹ŗ»+3æĄĮĀĆÄÅĘĒČÉŹĖĢĶĪĻŠŃŅÓŌÕÖ×ŲŁŚŪÜŻŽßąįāćäåęēčéźėģķīļš
  ńņóōõö÷ųłśūüżž’"⟩,
  ⟨["iso-8859-14", "iso8859-14", "iso885914"],
    .ofText
  "\x80+32Ḃḃ£ĊċḊ§Ẁ©ẂḋỲ\xad®ŸḞḟĠġṀṁ¶ṖẁṗẃṠỳẄẅṡÀ+15ŴÑ+5ṪØ+5Ŷß+16ŵñ+5ṫø+5ŷÿ"⟩,
  ⟨["csisolatin9", "iso-8859-15", "iso8859-15", "iso885915", "iso_8859-15", "l9"],
    .ofText
  "\x80+35€¥Š§š©+10Žµ¶·ž¹º»ŒœŸ¿+64"⟩,
  ⟨["iso-8859-16"],
    .ofText
  "\x80+32ĄąŁ€„Š§š©Ș«Ź\xadźŻ°±ČłŽ”¶·žčș»ŒœŸżÀÁÂĂÄĆÆ+9ĐŃÒÓÔŐÖŚŰÙ+3ĘȚß+3ăäćæ+9đńòóôőöśűù
  +3ęțÿ"⟩,
  ⟨["cskoi8r", "koi", "koi8", "koi8-r", "koi8_r"],
    .ofText
  "─│┌┐└┘├┤┬┴┼▀▄█▌▐+3⌠■∙√≈≤≥\xa0⌡°²·÷═║╒ё╓+14Ё╢+10©юабцдефгхи+7яр+3жвьызшэщчъЮАБЦДЕФГХИ
  +7ЯР+3ЖВЬЫЗШЭЩЧЪ"⟩,
  ⟨["koi8-ru", "koi8-u"],
    .ofText
  "─│┌┐└┘├┤┬┴┼▀▄█▌▐+3⌠■∙√≈≤≥\xa0⌡°²·÷═║╒ёє╔ії╗+4ґў╞+3ЁЄ╣ІЇ╦+4ҐЎ©юабцдефгхи+7яр+3жвьызшэ
  щчъЮАБЦДЕФГХИ+7ЯР+3ЖВЬЫЗШЭЩЧЪ"⟩,
  ⟨["csmacintosh", "mac", "macintosh", "x-mac-roman"],
    .ofText
  "ÄÅÇÉÑÖÜáàâäãåçéèêëíìîïñóòôöõúùûü†°¢£§•¶ß®©™´¨≠ÆØ∞±≤≥¥µ∂∑∏π∫ªºΩæø¿¡¬√ƒ≈∆«»…\xa0ÀÃÕŒœ–
  —“”‘’÷◊ÿŸ⁄€‹›ﬁﬂ‡·‚„‰ÂÊÁËÈÍÎÏÌÓÔ\uf8ffÒÚÛÙıˆ˜¯˘˙˚¸˝˛ˇ"⟩,
  ⟨["dos-874", "iso-8859-11", "iso8859-11", "iso885911", "tis-620", "windows-874"],
    .ofText
  "€\x81+3…\x86+10‘’“”•–—\x98+8ก+57-4฿+28"⟩,
  ⟨["cp1250", "windows-1250", "x-cp1250"],
    .ofText
  "€\x81‚\x83„…†‡\x88‰Š‹ŚŤŽŹ\x90‘’“”•–—\x98™š›śťžź\xa0ˇ˘Ł¤Ą¦+3Ş«+3Ż°±˛ł´+4ąş»Ľ˝ľżŔÁÂĂÄĹ
  ĆÇČÉĘËĚÍÎĎĐŃŇÓÔŐÖ×ŘŮÚŰÜÝŢßŕáâăäĺćçčéęëěíîďđńňóôőö÷řůúűüýţ˙"⟩,
  ⟨["cp1251", "windows-1251", "x-cp1251"],
    .ofText
  "ЂЃ‚ѓ„…†‡€‰Љ‹ЊЌЋЏђ‘’“”•–—\x98™љ›њќћџ\xa0ЎўЈ¤Ґ¦§Ё©Є«+3Ї°±Ііґµ¶·ё№є»јЅѕїА+63"⟩,
  ⟨["ansi_x3.4-1968", "ascii", "cp1252", "cp819", "csisolatin1", "ibm819", "iso-8859-1",
      "iso-ir-100", "iso8859-1", "iso88591", "iso_8859-1", "iso_8859-1:1987", "l1", "latin1",
      "us-ascii", "windows-1252", "x-cp1252"],
    .ofText
  "€\x81‚ƒ„…†‡ˆ‰Š‹Œ\x8dŽ\x8f\x90‘’“”•–—˜™š›œ\x9džŸ\xa0+95"⟩,
  ⟨["cp1253", "windows-1253", "x-cp1253"],
    .ofText
  "€\x81‚ƒ„…†‡\x88‰\x8a‹\x8c+4‘’“”•–—\x98™\x9a›\x9c+4΅Ά£+6-1«+3―°+3΄µ¶·ΈΉΊ»Ό½Ύ+19-1Σ+43"⟩,
  ⟨["cp1254", "csisolatin5", "iso-8859-9", "iso-ir-148", "iso8859-9", "iso88599",
      "iso_8859-9", "iso_8859-9:1989", "l5", "latin5", "windows-1254", "x-cp1254"],
    .ofText
  "€\x81‚ƒ„…†‡ˆ‰Š‹Œ\x8d+3‘’“”•–—˜™š›œ\x9d\x9eŸ\xa0+47ĞÑ+11İŞß+16ğñ+11ışÿ"⟩,
  ⟨["cp1255", "windows-1255", "x-cp1255"],
    .ofText
  "€\x81‚ƒ„…†‡ˆ‰\x8a‹\x8c+4‘’“”•–—˜™\x9a›\x9c+7₪¥+4×«+14÷»+4\u05b0+19װ+4-7א+26-2\u200e
  \u200f"⟩,
  ⟨["cp1256", "windows-1256", "x-cp1256"],
    .ofText
  "€پ‚ƒ„…†‡ˆ‰ٹ‹Œچژڈگ‘’“”•–—ک™ڑ›œ\u200c\u200dں\xa0،¢+7ھ«+14؛»+3؟ہء+21×ط+3ـ+3àلâم+3ç+4ىيî
  ï\u064b+3ô\u064f\u0650÷\u0651ù\u0652ûü\u200e\u200fے"⟩,
  ⟨["cp1257", "windows-1257", "x-cp1257"],
    .ofText
  "€\x81‚\x83„…†‡\x88‰\x8a‹\x8c¨ˇ¸\x90‘’“”•–—\x98™\x9a›\x9c¯˛\x9f\xa0-1¢£¤-1¦§Ø©Ŗ«+3Æ°
  +7ø¹ŗ»+3æĄĮĀĆÄÅĘĒČÉŹĖĢĶĪĻŠŃŅÓŌÕÖ×ŲŁŚŪÜŻŽßąįāćäåęēčéźėģķīļšńņóōõö÷ųłśūüżž˙"⟩,
  ⟨["cp1258", "windows-1258", "x-cp1258"],
    .ofText
  "€\x81‚ƒ„…†‡ˆ‰\x8a‹Œ\x8d+3‘’“”•–—˜™\x9a›œ\x9d\x9eŸ\xa0+34ĂÄ+7\u0300ÍÎÏĐÑ\u0309ÓÔƠÖ+6Ư
  \u0303ß+3ăä+7\u0301íîïđñ\u0323óôơö+6ư₫ÿ"⟩,
  ⟨["x-mac-cyrillic", "x-mac-ukrainian"],
    .ofText
  "А+31†°Ґ£§•¶І®©™Ђђ≠Ѓѓ∞±≤≥іµґЈЄєЇїЉљЊњјЅ¬√ƒ≈∆«»…\xa0ЋћЌќѕ–—“”‘’÷„ЎўЏџ№Ёёяа+30€"⟩]

def char (upper : CodeIndex) (b : UInt8) : Char :=
  if b.toNat < 0x80 then Char.ofNat b.toNat else (upper.at? (b.toNat - 0x80)).getD '\uFFFD'

end CodePage
end HopProbe.Text
