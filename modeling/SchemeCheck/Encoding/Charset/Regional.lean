import SchemeCheck.Encoding.Charset

/-!
# SchemeCheck.Encoding.Charset.Regional

Character sets of single systems and languages.
-/

namespace SchemeCheck.Encoding.Charset

/-- Roman-8, for Western Europe. -/
def roman8 : Charset where
  upper :=
    controls ++
    "\u00a0ÀÂÈÊËÎÏ´ˋˆ¨˜ÙÛ₤¯Ýý°ÇçÑñ¡¿¤£¥§ƒ¢".toList ++
    "âêôûáéóúàèòùäëöüÅîØÆåíøæÄìÖÜÉïßÔ".toList ++
    "ÁÃãÐðÍÌÓÒÕõŠšÚŸÿÞþ·µ¶¾—¼½ªº«■»±\ufffd".toList

/-- KOI8-T, for Tajik. -/
def koi8T : Charset where
  upper :=
    "қғ‚Ғ„…†‡\ufffd‰ҳ‹ҲҷҶ\ufffdҚ‘’“”•–—\ufffd™\ufffd›\ufffd\ufffd\ufffd\ufffd".toList ++
    "\ufffdӯӮё¤ӣ¦§\ufffd\ufffd\ufffd«¬\u00ad®\ufffd°±²Ё\ufffdӢ¶·\ufffd№\ufffd»\ufffd".toList ++
    "\ufffd\ufffd©".toList ++
    "юабцдефгхийклмнопярстужвьызшэщчъ".toList ++
    "ЮАБЦДЕФГХИЙКЛМНОПЯРСТУЖВЬЫЗШЭЩЧЪ".toList

/-- KZ-1048, for Kazakh. -/
def kz1048 : Charset where
  upper :=
    "ЂЃ‚ѓ„…†‡€‰Љ‹ЊҚҺЏђ‘’“”•–—\ufffd™љ›њқһџ".toList ++
    "\u00a0ҰұӘ¤Ө¦§Ё©Ғ«¬\u00ad®Ү°±Ііөµ¶·ё№ғ»әҢңү".toList ++
    "АБВГДЕЖЗИЙКЛМНОПРСТУФХЦЧШЩЪЫЬЭЮЯ".toList ++
    "абвгдежзийклмнопрстуфхцчшщъыьэюя".toList

/-- The character set of Palm OS. -/
def palmOs : Charset where
  upper :=
    "€\u0081‚ƒ„…†‡ˆ‰Š‹Œ♦♣♥♠‘’“”•–—˜™š\u009bœ\u009d\u009eŸ".toList ++
    "\u00a0¡¢£¤¥¦§¨©ª«¬\u00ad®¯°±²³´µ¶·¸¹º»¼½¾¿".toList ++
    "ÀÁÂÃÄÅÆÇÈÉÊËÌÍÎÏÐÑÒÓÔÕÖ×ØÙÚÛÜÝÞß".toList ++
    "àáâãäåæçèéêëìíîïðñòóôõö÷øùúûüýþÿ".toList

/-- PTCP154, for the Cyrillic of Central Asia. -/
def ptcp154 : Charset where
  upper :=
    "ҖҒӮғ„…ҶҮҲүҠӢҢҚҺҸҗ‘’“”•–—ҳҷҡӣңқһҹ".toList ++
    "\u00a0ЎўЈӨҘҰ§Ё©Ә«¬ӯ®Ҝ°ұІіҙө¶·ё№ә»јҪҫҝ".toList ++
    "АБВГДЕЖЗИЙКЛМНОПРСТУФХЦЧШЩЪЫЬЭЮЯ".toList ++
    "абвгдежзийклмнопрстуфхцчшщъыьэюя".toList

/-- TIS-620, for Thai. -/
def tis620 : Charset where
  upper :=
    controls ++
    "\ufffdกขฃคฅฆงจฉชซฌญฎฏฐฑฒณดตถทธนบปผฝพฟ".toList ++
    "ภมยรฤลฦวศษสหฬอฮฯะ\u0e31าำ\u0e34\u0e35\u0e36\u0e37\u0e38\u0e39\u0e3a\ufffd\ufffd".toList ++
    "\ufffd\ufffd฿".toList ++
    "เแโใไๅๆ\u0e47\u0e48\u0e49\u0e4a\u0e4b\u0e4c\u0e4d\u0e4e๏๐๑๒๓๔๕๖๗๘๙๚๛\ufffd\ufffd".toList ++
    "\ufffd\ufffd".toList

end SchemeCheck.Encoding.Charset
