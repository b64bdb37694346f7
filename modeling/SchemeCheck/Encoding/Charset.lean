import SchemeCheck.Text.Basic

/-!
# SchemeCheck.Encoding.Charset

Encodings of one byte a character.  A character set is given by its two halves:
the characters of the bytes 0x00 to 0x7F and of the bytes 0x80 to 0xFF in order.
The lower half is ASCII unless it is told.  U+FFFD stands where a byte has no
character.
-/

namespace SchemeCheck.Encoding

/-- The characters of ASCII. -/
def asciiHalf : Text :=
  (List.range 128).map Char.ofNat

/-- A character set, as its two halves. -/
structure Charset where
  lower : Text := asciiHalf
  upper : Text
  deriving DecidableEq

namespace Charset

/-- What stands in a character set where a byte has no character. -/
def hole : Char := '\ufffd'

/-- The character of a byte. -/
def charOf? (charset : Charset) (b : UInt8) : Option Char :=
  (if b.toNat < 0x80 then charset.lower[b.toNat]? else charset.upper[b.toNat - 0x80]?).filter
    (· ≠ hole)

/-- The byte of a character: the last one, if it has several. -/
def byteOf? (charset : Charset) (c : Char) : Option UInt8 :=
  if c = hole then none
  else
    match charset.upper.reverse.idxOf? c with
    | some i => some (UInt8.ofNat (0x80 + (charset.upper.length - 1 - i)))
    | none =>
      (charset.lower.reverse.idxOf? c).map fun i => UInt8.ofNat (charset.lower.length - 1 - i)

/-- The 32 control characters above ASCII, which the parts of ISO 8859 share. -/
def controls : Text :=
  (List.range 32).map fun i => Char.ofNat (0x80 + i)

/-! ## Code pages -/

/-- Code page 437, for the United States. -/
def codePage437 : Charset where
  upper :=
    "ÇüéâäàåçêëèïîìÄÅÉæÆôöòûùÿÖÜ¢£¥₧ƒ".toList ++
    "áíóúñÑªº¿⌐¬½¼¡«»░▒▓│┤╡╢╖╕╣║╗╝╜╛┐".toList ++
    "└┴┬├─┼╞╟╚╔╩╦╠═╬╧╨╤╥╙╘╒╓╫╪┘┌█▄▌▐▀".toList ++
    "αßΓπΣσµτΦΘΩδ∞φε∩≡±≥≤⌠⌡÷≈°∙·√ⁿ²■\u00a0".toList

/-- Code page 850, for Western Europe. -/
def codePage850 : Charset where
  upper :=
    "ÇüéâäàåçêëèïîìÄÅÉæÆôöòûùÿÖÜø£Ø×ƒ".toList ++
    "áíóúñÑªº¿®¬½¼¡«»░▒▓│┤ÁÂÀ©╣║╗╝¢¥┐".toList ++
    "└┴┬├─┼ãÃ╚╔╩╦╠═╬¤ðÐÊËÈıÍÎÏ┘┌█▄¦Ì▀".toList ++
    "ÓßÔÒõÕµþÞÚÛÙýÝ¯´\u00ad±‗¾¶§÷¸°¨·¹³²■\u00a0".toList

/-- Code page 852, for Central Europe. -/
def codePage852 : Charset where
  upper :=
    "ÇüéâäůćçłëŐőîŹÄĆÉĹĺôöĽľŚśÖÜŤťŁ×č".toList ++
    "áíóúĄąŽžĘę¬źČş«»░▒▓│┤ÁÂĚŞ╣║╗╝Żż┐".toList ++
    "└┴┬├─┼Ăă╚╔╩╦╠═╬¤đĐĎËďŇÍÎě┘┌█▄ŢŮ▀".toList ++
    "ÓßÔŃńňŠšŔÚŕŰýÝţ´\u00ad˝˛ˇ˘§÷¸°¨˙űŘř■\u00a0".toList

/-- Code page 866, for Cyrillic. -/
def codePage866 : Charset where
  upper :=
    "АБВГДЕЖЗИЙКЛМНОПРСТУФХЦЧШЩЪЫЬЭЮЯ".toList ++
    "абвгдежзийклмноп░▒▓│┤╡╢╖╕╣║╗╝╜╛┐".toList ++
    "└┴┬├─┼╞╟╚╔╩╦╠═╬╧╨╤╥╙╘╒╓╫╪┘┌█▄▌▐▀".toList ++
    "рстуфхцчшщъыьэюяЁёЄєЇїЎў°∙·√№¤■\u00a0".toList

/-- Windows code page 1250, for Central Europe. -/
def windows1250 : Charset where
  upper :=
    "€\ufffd‚\ufffd„…†‡\ufffd‰Š‹ŚŤŽŹ\ufffd‘’“”•–—\ufffd™š›śťžź".toList ++
    "\u00a0ˇ˘Ł¤Ą¦§¨©Ş«¬\u00ad®Ż°±˛ł´µ¶·¸ąş»Ľ˝ľż".toList ++
    "ŔÁÂĂÄĹĆÇČÉĘËĚÍÎĎĐŃŇÓÔŐÖ×ŘŮÚŰÜÝŢß".toList ++
    "ŕáâăäĺćçčéęëěíîďđńňóôőö÷řůúűüýţ˙".toList

/-- Windows code page 1251, for Cyrillic. -/
def windows1251 : Charset where
  upper :=
    "ЂЃ‚ѓ„…†‡€‰Љ‹ЊЌЋЏђ‘’“”•–—\ufffd™љ›њќћџ".toList ++
    "\u00a0ЎўЈ¤Ґ¦§Ё©Є«¬\u00ad®Ї°±Ііґµ¶·ё№є»јЅѕї".toList ++
    "АБВГДЕЖЗИЙКЛМНОПРСТУФХЦЧШЩЪЫЬЭЮЯ".toList ++
    "абвгдежзийклмнопрстуфхцчшщъыьэюя".toList

/-- Windows code page 1252, for Western Europe. -/
def windows1252 : Charset where
  upper :=
    "€\ufffd‚ƒ„…†‡ˆ‰Š‹Œ\ufffdŽ\ufffd\ufffd‘’“”•–—˜™š›œ\ufffdžŸ".toList ++
    "\u00a0¡¢£¤¥¦§¨©ª«¬\u00ad®¯°±²³´µ¶·¸¹º»¼½¾¿".toList ++
    "ÀÁÂÃÄÅÆÇÈÉÊËÌÍÎÏÐÑÒÓÔÕÖ×ØÙÚÛÜÝÞß".toList ++
    "àáâãäåæçèéêëìíîïðñòóôõö÷øùúûüýþÿ".toList

/-- Windows code page 1253, for Greek. -/
def windows1253 : Charset where
  upper :=
    "€\ufffd‚ƒ„…†‡\ufffd‰\ufffd‹\ufffd\ufffd\ufffd\ufffd\ufffd‘’“”•–—\ufffd™\ufffd›\ufffd".toList ++
    "\ufffd\ufffd\ufffd".toList ++
    "\u00a0΅Ά£¤¥¦§¨©\ufffd«¬\u00ad®―°±²³΄µ¶·ΈΉΊ»Ό½ΎΏ".toList ++
    "ΐΑΒΓΔΕΖΗΘΙΚΛΜΝΞΟΠΡ\ufffdΣΤΥΦΧΨΩΪΫάέήί".toList ++
    "ΰαβγδεζηθικλμνξοπρςστυφχψωϊϋόύώ\ufffd".toList

/-- Windows code page 1254, for Turkish. -/
def windows1254 : Charset where
  upper :=
    "€\ufffd‚ƒ„…†‡ˆ‰Š‹Œ\ufffd\ufffd\ufffd\ufffd‘’“”•–—˜™š›œ\ufffd\ufffdŸ".toList ++
    "\u00a0¡¢£¤¥¦§¨©ª«¬\u00ad®¯°±²³´µ¶·¸¹º»¼½¾¿".toList ++
    "ÀÁÂÃÄÅÆÇÈÉÊËÌÍÎÏĞÑÒÓÔÕÖ×ØÙÚÛÜİŞß".toList ++
    "àáâãäåæçèéêëìíîïğñòóôõö÷øùúûüışÿ".toList

/-- Windows code page 1255, for Hebrew. -/
def windows1255 : Charset where
  upper :=
    "€\ufffd‚ƒ„…†‡ˆ‰\ufffd‹\ufffd\ufffd\ufffd\ufffd\ufffd‘’“”•–—˜™\ufffd›\ufffd\ufffd".toList ++
    "\ufffd\ufffd".toList ++
    "\u00a0¡¢£₪¥¦§¨©×«¬\u00ad®¯°±²³´µ¶·¸¹÷»¼½¾¿".toList ++
    "\u05b0\u05b1\u05b2\u05b3\u05b4\u05b5\u05b6\u05b7\u05b8\u05b9\ufffd\u05bb\u05bc\u05bd".toList ++
    "\u05be\u05bf\u05c0\u05c1\u05c2\u05c3\u05f0\u05f1\u05f2\u05f3\u05f4\ufffd\ufffd\ufffd".toList ++
    "\ufffd\ufffd\ufffd\ufffd".toList ++
    "\u05d0\u05d1\u05d2\u05d3\u05d4\u05d5\u05d6\u05d7\u05d8\u05d9\u05da\u05db\u05dc\u05dd".toList ++
    "\u05de\u05df\u05e0\u05e1\u05e2\u05e3\u05e4\u05e5\u05e6\u05e7\u05e8\u05e9\u05ea\ufffd".toList ++
    "\ufffd\u200e\u200f\ufffd".toList

/-- Windows code page 1256, for Arabic. -/
def windows1256 : Charset where
  upper :=
    "€\u067e‚ƒ„…†‡ˆ‰\u0679‹Œ\u0686\u0698\u0688\u06af‘’“”•–—\u06a9™\u0691›œ\u200c\u200d".toList ++
    "\u06ba".toList ++
    "\u00a0،¢£¤¥¦§¨©\u06be«¬\u00ad®¯°±²³´µ¶·¸¹\u061b»¼½¾\u061f".toList ++
    "\u06c1\u0621\u0622\u0623\u0624\u0625\u0626\u0627\u0628\u0629\u062a\u062b\u062c\u062d".toList ++
    "\u062e\u062f\u0630\u0631\u0632\u0633\u0634\u0635\u0636×\u0637\u0638\u0639\u063a".toList ++
    "\u0640\u0641\u0642\u0643".toList ++
    "à\u0644â\u0645\u0646\u0647\u0648çèéêë\u0649\u064aîï\u064b\u064c\u064d\u064eô\u064f".toList ++
    "\u0650÷\u0651ù\u0652ûü\u200e\u200f\u06d2".toList

/-- Windows code page 1257, for the Baltic languages. -/
def windows1257 : Charset where
  upper :=
    "€\ufffd‚\ufffd„…†‡\ufffd‰\ufffd‹\ufffd¨ˇ¸\ufffd‘’“”•–—\ufffd™\ufffd›\ufffd¯˛\ufffd".toList ++
    "\u00a0\ufffd¢£¤\ufffd¦§Ø©Ŗ«¬\u00ad®Æ°±²³´µ¶·ø¹ŗ»¼½¾æ".toList ++
    "ĄĮĀĆÄÅĘĒČÉŹĖĢĶĪĻŠŃŅÓŌÕÖ×ŲŁŚŪÜŻŽß".toList ++
    "ąįāćäåęēčéźėģķīļšńņóōõö÷ųłśūüżž˙".toList

/-- Windows code page 1258, for Vietnamese. -/
def windows1258 : Charset where
  upper :=
    "€\ufffd‚ƒ„…†‡ˆ‰\ufffd‹Œ\ufffd\ufffd\ufffd\ufffd‘’“”•–—˜™\ufffd›œ\ufffd\ufffdŸ".toList ++
    "\u00a0¡¢£¤¥¦§¨©ª«¬\u00ad®¯°±²³´µ¶·¸¹º»¼½¾¿".toList ++
    "ÀÁÂĂÄÅÆÇÈÉÊË\u0300ÍÎÏĐÑ\u0309ÓÔƠÖ×ØÙÚÛÜƯ\u0303ß".toList ++
    "àáâăäåæçèéêë\u0301íîïđñ\u0323óôơö÷øùúûüư₫ÿ".toList

/-! ## Parts of ISO 8859 -/

/-- Part 2 of ISO 8859, for Central Europe. -/
def iso8859Part2 : Charset where
  upper :=
    controls ++
    "\u00a0Ą˘Ł¤ĽŚ§¨ŠŞŤŹ\u00adŽŻ°ą˛ł´ľśˇ¸šşťź˝žż".toList ++
    "ŔÁÂĂÄĹĆÇČÉĘËĚÍÎĎĐŃŇÓÔŐÖ×ŘŮÚŰÜÝŢß".toList ++
    "ŕáâăäĺćçčéęëěíîďđńňóôőö÷řůúűüýţ˙".toList

/-- Part 3 of ISO 8859, for South Europe. -/
def iso8859Part3 : Charset where
  upper :=
    controls ++
    "\u00a0Ħ˘£¤\ufffdĤ§¨İŞĞĴ\u00ad\ufffdŻ°ħ²³´µĥ·¸ışğĵ½\ufffdż".toList ++
    "ÀÁÂ\ufffdÄĊĈÇÈÉÊËÌÍÎÏ\ufffdÑÒÓÔĠÖ×ĜÙÚÛÜŬŜß".toList ++
    "àáâ\ufffdäċĉçèéêëìíîï\ufffdñòóôġö÷ĝùúûüŭŝ˙".toList

/-- Part 4 of ISO 8859, for North Europe. -/
def iso8859Part4 : Charset where
  upper :=
    controls ++
    "\u00a0ĄĸŖ¤ĨĻ§¨ŠĒĢŦ\u00adŽ¯°ą˛ŗ´ĩļˇ¸šēģŧŊžŋ".toList ++
    "ĀÁÂÃÄÅÆĮČÉĘËĖÍÎĪĐŅŌĶÔÕÖ×ØŲÚÛÜŨŪß".toList ++
    "āáâãäåæįčéęëėíîīđņōķôõö÷øųúûüũū˙".toList

/-- Part 5 of ISO 8859, for Cyrillic. -/
def iso8859Part5 : Charset where
  upper :=
    controls ++
    "\u00a0ЁЂЃЄЅІЇЈЉЊЋЌ\u00adЎЏАБВГДЕЖЗИЙКЛМНОП".toList ++
    "РСТУФХЦЧШЩЪЫЬЭЮЯабвгдежзийклмноп".toList ++
    "рстуфхцчшщъыьэюя№ёђѓєѕіїјљњћќ§ўџ".toList

/-- Part 6 of ISO 8859, for Arabic. -/
def iso8859Part6 : Charset where
  upper :=
    controls ++
    "\u00a0\ufffd\ufffd\ufffd¤\ufffd\ufffd\ufffd\ufffd\ufffd\ufffd\ufffd،\u00ad\ufffd".toList ++
    "\ufffd\ufffd\ufffd\ufffd\ufffd\ufffd\ufffd\ufffd\ufffd\ufffd\ufffd\ufffd\u061b\ufffd".toList ++
    "\ufffd\ufffd\u061f".toList ++
    "\ufffd\u0621\u0622\u0623\u0624\u0625\u0626\u0627\u0628\u0629\u062a\u062b\u062c\u062d".toList ++
    "\u062e\u062f\u0630\u0631\u0632\u0633\u0634\u0635\u0636\u0637\u0638\u0639\u063a\ufffd".toList ++
    "\ufffd\ufffd\ufffd\ufffd".toList ++
    "\u0640\u0641\u0642\u0643\u0644\u0645\u0646\u0647\u0648\u0649\u064a\u064b\u064c\u064d".toList ++
    "\u064e\u064f\u0650\u0651\u0652\ufffd\ufffd\ufffd\ufffd\ufffd\ufffd\ufffd\ufffd\ufffd".toList ++
    "\ufffd\ufffd\ufffd\ufffd".toList

/-- Part 7 of ISO 8859, for Greek. -/
def iso8859Part7 : Charset where
  upper :=
    controls ++
    "\u00a0‘’£€₯¦§¨©ͺ«¬\u00ad\ufffd―°±²³΄΅Ά·ΈΉΊ»Ό½ΎΏ".toList ++
    "ΐΑΒΓΔΕΖΗΘΙΚΛΜΝΞΟΠΡ\ufffdΣΤΥΦΧΨΩΪΫάέήί".toList ++
    "ΰαβγδεζηθικλμνξοπρςστυφχψωϊϋόύώ\ufffd".toList

/-- Part 8 of ISO 8859, for Hebrew. -/
def iso8859Part8 : Charset where
  upper :=
    controls ++
    "\u00a0\ufffd¢£¤¥¦§¨©×«¬\u00ad®¯°±²³´µ¶·¸¹÷»¼½¾\ufffd".toList ++
    "\ufffd\ufffd\ufffd\ufffd\ufffd\ufffd\ufffd\ufffd\ufffd\ufffd\ufffd\ufffd\ufffd\ufffd".toList ++
    "\ufffd\ufffd\ufffd\ufffd\ufffd\ufffd\ufffd\ufffd\ufffd\ufffd\ufffd\ufffd\ufffd\ufffd".toList ++
    "\ufffd\ufffd\ufffd‗".toList ++
    "\u05d0\u05d1\u05d2\u05d3\u05d4\u05d5\u05d6\u05d7\u05d8\u05d9\u05da\u05db\u05dc\u05dd".toList ++
    "\u05de\u05df\u05e0\u05e1\u05e2\u05e3\u05e4\u05e5\u05e6\u05e7\u05e8\u05e9\u05ea\ufffd".toList ++
    "\ufffd\u200e\u200f\ufffd".toList

/-- Part 9 of ISO 8859, for Turkish. -/
def iso8859Part9 : Charset where
  upper :=
    controls ++
    "\u00a0¡¢£¤¥¦§¨©ª«¬\u00ad®¯°±²³´µ¶·¸¹º»¼½¾¿".toList ++
    "ÀÁÂÃÄÅÆÇÈÉÊËÌÍÎÏĞÑÒÓÔÕÖ×ØÙÚÛÜİŞß".toList ++
    "àáâãäåæçèéêëìíîïğñòóôõö÷øùúûüışÿ".toList

/-- Part 10 of ISO 8859, for the Nordic languages. -/
def iso8859Part10 : Charset where
  upper :=
    controls ++
    "\u00a0ĄĒĢĪĨĶ§ĻĐŠŦŽ\u00adŪŊ°ąēģīĩķ·ļđšŧž―ūŋ".toList ++
    "ĀÁÂÃÄÅÆĮČÉĘËĖÍÎÏÐŅŌÓÔÕÖŨØŲÚÛÜÝÞß".toList ++
    "āáâãäåæįčéęëėíîïðņōóôõöũøųúûüýþĸ".toList

/-- Part 11 of ISO 8859, for Thai. -/
def iso8859Part11 : Charset where
  upper :=
    controls ++
    "\u00a0กขฃคฅฆงจฉชซฌญฎฏฐฑฒณดตถทธนบปผฝพฟ".toList ++
    "ภมยรฤลฦวศษสหฬอฮฯะ\u0e31าำ\u0e34\u0e35\u0e36\u0e37\u0e38\u0e39\u0e3a\ufffd\ufffd".toList ++
    "\ufffd\ufffd฿".toList ++
    "เแโใไๅๆ\u0e47\u0e48\u0e49\u0e4a\u0e4b\u0e4c\u0e4d\u0e4e๏๐๑๒๓๔๕๖๗๘๙๚๛\ufffd\ufffd".toList ++
    "\ufffd\ufffd".toList

/-- Part 13 of ISO 8859, for the Baltic Rim. -/
def iso8859Part13 : Charset where
  upper :=
    controls ++
    "\u00a0”¢£¤„¦§Ø©Ŗ«¬\u00ad®Æ°±²³“µ¶·ø¹ŗ»¼½¾æ".toList ++
    "ĄĮĀĆÄÅĘĒČÉŹĖĢĶĪĻŠŃŅÓŌÕÖ×ŲŁŚŪÜŻŽß".toList ++
    "ąįāćäåęēčéźėģķīļšńņóōõö÷ųłśūüżž’".toList

/-- Part 14 of ISO 8859, for the Celtic languages. -/
def iso8859Part14 : Charset where
  upper :=
    controls ++
    "\u00a0Ḃḃ£ĊċḊ§Ẁ©ẂḋỲ\u00ad®ŸḞḟĠġṀṁ¶ṖẁṗẃṠỳẄẅṡ".toList ++
    "ÀÁÂÃÄÅÆÇÈÉÊËÌÍÎÏŴÑÒÓÔÕÖṪØÙÚÛÜÝŶß".toList ++
    "àáâãäåæçèéêëìíîïŵñòóôõöṫøùúûüýŷÿ".toList

/-- Part 15 of ISO 8859, for Western Europe with the euro sign. -/
def iso8859Part15 : Charset where
  upper :=
    controls ++
    "\u00a0¡¢£€¥Š§š©ª«¬\u00ad®¯°±²³Žµ¶·ž¹º»ŒœŸ¿".toList ++
    "ÀÁÂÃÄÅÆÇÈÉÊËÌÍÎÏÐÑÒÓÔÕÖ×ØÙÚÛÜÝÞß".toList ++
    "àáâãäåæçèéêëìíîïðñòóôõö÷øùúûüýþÿ".toList

/-- Part 16 of ISO 8859, for South-Eastern Europe. -/
def iso8859Part16 : Charset where
  upper :=
    controls ++
    "\u00a0ĄąŁ€„Š§š©Ș«Ź\u00adźŻ°±ČłŽ”¶·žčș»ŒœŸż".toList ++
    "ÀÁÂĂÄĆÆÇÈÉÊËÌÍÎÏĐŃÒÓÔŐÖŚŰÙÚÛÜĘȚß".toList ++
    "àáâăäćæçèéêëìíîïđńòóôőöśűùúûüęțÿ".toList

/-! ## Other sets -/

/-- KOI8-R, for Russian. -/
def koi8R : Charset where
  upper :=
    "─│┌┐└┘├┤┬┴┼▀▄█▌▐░▒▓⌠■∙√≈≤≥\u00a0⌡°²·÷".toList ++
    "═║╒ё╓╔╕╖╗╘╙╚╛╜╝╞╟╠╡Ё╢╣╤╥╦╧╨╩╪╫╬©".toList ++
    "юабцдефгхийклмнопярстужвьызшэщчъ".toList ++
    "ЮАБЦДЕФГХИЙКЛМНОПЯРСТУЖВЬЫЗШЭЩЧЪ".toList

/-- KOI8-U, for Ukrainian. -/
def koi8U : Charset where
  upper :=
    "─│┌┐└┘├┤┬┴┼▀▄█▌▐░▒▓⌠■∙√≈≤≥\u00a0⌡°²·÷".toList ++
    "═║╒ёє╔ії╗╘╙╚╛ґ╝╞╟╠╡ЁЄ╣ІЇ╦╧╨╩╪Ґ╬©".toList ++
    "юабцдефгхийклмнопярстужвьызшэщчъ".toList ++
    "ЮАБЦДЕФГХИЙКЛМНОПЯРСТУЖВЬЫЗШЭЩЧЪ".toList

/-- Mac OS Roman. -/
def macRoman : Charset where
  upper :=
    "ÄÅÇÉÑÖÜáàâäãåçéèêëíìîïñóòôöõúùûü".toList ++
    "†°¢£§•¶ß®©™´¨≠ÆØ∞±≤≥¥µ∂∑∏π∫ªºΩæø".toList ++
    "¿¡¬√ƒ≈∆«»…\u00a0ÀÃÕŒœ–—“”‘’÷◊ÿŸ⁄€‹›ﬁﬂ".toList ++
    "‡·‚„‰ÂÊÁËÈÍÎÏÌÓÔ\uf8ffÒÚÛÙıˆ˜¯˘˙˚¸˝˛ˇ".toList

end Charset

end SchemeCheck.Encoding
