import SchemeCheck.Encoding.Charset

/-!
# SchemeCheck.Encoding.Charset.CodePages

More code pages of personal computers.
-/

namespace SchemeCheck.Encoding.Charset

/-- Code page 720, for Arabic. -/
def codePage720 : Charset where
  upper :=
    "\u0080\u0081éâ\u0084à\u0086çêëèïî\u008d\u008e\u008f\u0090\u0651\u0652ô¤\u0640ûù".toList ++
    "\u0621\u0622\u0623\u0624£\u0625\u0626\u0627".toList ++
    "\u0628\u0629\u062a\u062b\u062c\u062d\u062e\u062f\u0630\u0631\u0632\u0633\u0634\u0635".toList ++
    "«»░▒▓│┤╡╢╖╕╣║╗╝╜╛┐".toList ++
    "└┴┬├─┼╞╟╚╔╩╦╠═╬╧╨╤╥╙╘╒╓╫╪┘┌█▄▌▐▀".toList ++
    "\u0636\u0637\u0638\u0639\u063a\u0641µ\u0642\u0643\u0644\u0645\u0646\u0647\u0648".toList ++
    "\u0649\u064a≡\u064b\u064c\u064d\u064e\u064f\u0650≈°∙·√ⁿ²■\u00a0".toList

/-- Code page 737, for Greek. -/
def codePage737 : Charset where
  upper :=
    "ΑΒΓΔΕΖΗΘΙΚΛΜΝΞΟΠΡΣΤΥΦΧΨΩαβγδεζηθ".toList ++
    "ικλμνξοπρσςτυφχψ░▒▓│┤╡╢╖╕╣║╗╝╜╛┐".toList ++
    "└┴┬├─┼╞╟╚╔╩╦╠═╬╧╨╤╥╙╘╒╓╫╪┘┌█▄▌▐▀".toList ++
    "ωάέήϊίόύϋώΆΈΉΊΌΎΏ±≥≤ΪΫ÷≈°∙·√ⁿ²■\u00a0".toList

/-- Code page 775, for the Baltic Rim. -/
def codePage775 : Charset where
  upper :=
    "ĆüéāäģåćłēŖŗīŹÄÅÉæÆōöĢ¢ŚśÖÜø£Ø×¤".toList ++
    "ĀĪóŻżź”¦©®¬½¼Ł«»░▒▓│┤ĄČĘĖ╣║╗╝ĮŠ┐".toList ++
    "└┴┬├─┼ŲŪ╚╔╩╦╠═╬Žąčęėįšųūž┘┌█▄▌▐▀".toList ++
    "ÓßŌŃõÕµńĶķĻļņĒŅ’\u00ad±“¾¶§÷„°∙·¹³²■\u00a0".toList

/-- Code page 855, for Cyrillic. -/
def codePage855 : Charset where
  upper :=
    "ђЂѓЃёЁєЄѕЅіІїЇјЈљЉњЊћЋќЌўЎџЏюЮъЪ".toList ++
    "аАбБцЦдДеЕфФгГ«»░▒▓│┤хХиИ╣║╗╝йЙ┐".toList ++
    "└┴┬├─┼кК╚╔╩╦╠═╬¤лЛмМнНоОп┘┌█▄Пя▀".toList ++
    "ЯрРсСтТуУжЖвВьЬ№\u00adыЫзЗшШэЭщЩчЧ§■\u00a0".toList

/-- Code page 856, for Hebrew. -/
def codePage856 : Charset where
  upper :=
    "\u05d0\u05d1\u05d2\u05d3\u05d4\u05d5\u05d6\u05d7\u05d8\u05d9\u05da\u05db\u05dc\u05dd".toList ++
    "\u05de\u05df\u05e0\u05e1\u05e2\u05e3\u05e4\u05e5\u05e6\u05e7\u05e8\u05e9\u05ea\ufffd".toList ++
    "£\ufffd×\ufffd".toList ++
    "\ufffd\ufffd\ufffd\ufffd\ufffd\ufffd\ufffd\ufffd\ufffd®¬½¼\ufffd«»░▒▓│┤\ufffd\ufffd".toList ++
    "\ufffd©╣║╗╝¢¥┐".toList ++
    "└┴┬├─┼\ufffd\ufffd╚╔╩╦╠═╬¤\ufffd\ufffd\ufffd\ufffd\ufffd\ufffd\ufffd\ufffd\ufffd┘┌█▄".toList ++
    "¦\ufffd▀".toList ++
    "\ufffd\ufffd\ufffd\ufffd\ufffd\ufffdµ\ufffd\ufffd\ufffd\ufffd\ufffd\ufffd\ufffd¯´".toList ++
    "\u00ad±‗¾¶§÷¸°¨·¹³²■\u00a0".toList

/-- Code page 857, for Turkish. -/
def codePage857 : Charset where
  upper :=
    "ÇüéâäàåçêëèïîıÄÅÉæÆôöòûùİÖÜø£ØŞş".toList ++
    "áíóúñÑĞğ¿®¬½¼¡«»░▒▓│┤ÁÂÀ©╣║╗╝¢¥┐".toList ++
    "└┴┬├─┼ãÃ╚╔╩╦╠═╬¤ºªÊËÈ\ufffdÍÎÏ┘┌█▄¦Ì▀".toList ++
    "ÓßÔÒõÕµ\ufffd×ÚÛÙìÿ¯´\u00ad±\ufffd¾¶§÷¸°¨·¹³²■\u00a0".toList

/-- Code page 858, for Western Europe with the euro sign. -/
def codePage858 : Charset where
  upper :=
    "ÇüéâäàåçêëèïîìÄÅÉæÆôöòûùÿÖÜø£Ø×ƒ".toList ++
    "áíóúñÑªº¿®¬½¼¡«»░▒▓│┤ÁÂÀ©╣║╗╝¢¥┐".toList ++
    "└┴┬├─┼ãÃ╚╔╩╦╠═╬¤ðÐÊËÈ€ÍÎÏ┘┌█▄¦Ì▀".toList ++
    "ÓßÔÒõÕµþÞÚÛÙýÝ¯´\u00ad±‗¾¶§÷¸°¨·¹³²■\u00a0".toList

/-- Code page 860, for Portuguese. -/
def codePage860 : Charset where
  upper :=
    "ÇüéâãàÁçêÊèÍÔìÃÂÉÀÈôõòÚùÌÕÜ¢£Ù₧Ó".toList ++
    "áíóúñÑªº¿Ò¬½¼¡«»░▒▓│┤╡╢╖╕╣║╗╝╜╛┐".toList ++
    "└┴┬├─┼╞╟╚╔╩╦╠═╬╧╨╤╥╙╘╒╓╫╪┘┌█▄▌▐▀".toList ++
    "αßΓπΣσµτΦΘΩδ∞φε∩≡±≥≤⌠⌡÷≈°∙·√ⁿ²■\u00a0".toList

/-- Code page 861, for Icelandic. -/
def codePage861 : Charset where
  upper :=
    "ÇüéâäàåçêëèÐðÞÄÅÉæÆôöþûÝýÖÜø£Ø₧ƒ".toList ++
    "áíóúÁÍÓÚ¿⌐¬½¼¡«»░▒▓│┤╡╢╖╕╣║╗╝╜╛┐".toList ++
    "└┴┬├─┼╞╟╚╔╩╦╠═╬╧╨╤╥╙╘╒╓╫╪┘┌█▄▌▐▀".toList ++
    "αßΓπΣσµτΦΘΩδ∞φε∩≡±≥≤⌠⌡÷≈°∙·√ⁿ²■\u00a0".toList

/-- Code page 862, for Hebrew. -/
def codePage862 : Charset where
  upper :=
    "\u05d0\u05d1\u05d2\u05d3\u05d4\u05d5\u05d6\u05d7\u05d8\u05d9\u05da\u05db\u05dc\u05dd".toList ++
    "\u05de\u05df\u05e0\u05e1\u05e2\u05e3\u05e4\u05e5\u05e6\u05e7\u05e8\u05e9\u05ea¢£¥₧ƒ".toList ++
    "áíóúñÑªº¿⌐¬½¼¡«»░▒▓│┤╡╢╖╕╣║╗╝╜╛┐".toList ++
    "└┴┬├─┼╞╟╚╔╩╦╠═╬╧╨╤╥╙╘╒╓╫╪┘┌█▄▌▐▀".toList ++
    "αßΓπΣσµτΦΘΩδ∞φε∩≡±≥≤⌠⌡÷≈°∙·√ⁿ²■\u00a0".toList

/-- Code page 863, for Canadian French. -/
def codePage863 : Charset where
  upper :=
    "ÇüéâÂà¶çêëèïî‗À§ÉÈÊôËÏûù¤ÔÜ¢£ÙÛƒ".toList ++
    "¦´óú¨¸³¯Î⌐¬½¼¾«»░▒▓│┤╡╢╖╕╣║╗╝╜╛┐".toList ++
    "└┴┬├─┼╞╟╚╔╩╦╠═╬╧╨╤╥╙╘╒╓╫╪┘┌█▄▌▐▀".toList ++
    "αßΓπΣσµτΦΘΩδ∞φε∩≡±≥≤⌠⌡÷≈°∙·√ⁿ²■\u00a0".toList

/-- Code page 864, for Arabic, with the Arabic percent sign. -/
def codePage864 : Charset where
  lower := asciiHalf.set 0x25 '\u066a'
  upper :=
    "°·∙√▒─│┼┤┬├┴┐┌└┘β∞φ±½¼≈«»\ufef7\ufef8\ufffd\ufffd\ufefb\ufefc\ufffd".toList ++
    "\u00a0\u00ad\ufe82£¤\ufe84\ufffd\ufffd\ufe8e\ufe8f\ufe95\ufe99،\ufe9d\ufea1\ufea5".toList ++
    "\u0660\u0661\u0662\u0663\u0664\u0665\u0666\u0667\u0668\u0669\ufed1\u061b\ufeb1\ufeb5".toList ++
    "\ufeb9\u061f".toList ++
    "¢\ufe80\ufe81\ufe83\ufe85\ufeca\ufe8b\ufe8d\ufe91\ufe93\ufe97\ufe9b\ufe9f\ufea3".toList ++
    "\ufea7\ufea9\ufeab\ufead\ufeaf\ufeb3\ufeb7\ufebb\ufebf\ufec1\ufec5\ufecb\ufecf¦¬÷×".toList ++
    "\ufec9".toList ++
    "\u0640\ufed3\ufed7\ufedb\ufedf\ufee3\ufee7\ufeeb\ufeed\ufeef\ufef3\ufebd\ufecc\ufece".toList ++
    "\ufecd\ufee1\ufe7d\u0651\ufee5\ufee9\ufeec\ufef0\ufef2\ufed0\ufed5\ufef5\ufef6\ufedd".toList ++
    "\ufed9\ufef1■\ufffd".toList

/-- Code page 865, for the Nordic languages. -/
def codePage865 : Charset where
  upper :=
    "ÇüéâäàåçêëèïîìÄÅÉæÆôöòûùÿÖÜø£Ø₧ƒ".toList ++
    "áíóúñÑªº¿⌐¬½¼¡«¤░▒▓│┤╡╢╖╕╣║╗╝╜╛┐".toList ++
    "└┴┬├─┼╞╟╚╔╩╦╠═╬╧╨╤╥╙╘╒╓╫╪┘┌█▄▌▐▀".toList ++
    "αßΓπΣσµτΦΘΩδ∞φε∩≡±≥≤⌠⌡÷≈°∙·√ⁿ²■\u00a0".toList

/-- Code page 869, for Greek. -/
def codePage869 : Charset where
  upper :=
    "\ufffd\ufffd\ufffd\ufffd\ufffd\ufffdΆ\ufffd·¬¦‘’Έ―ΉΊΪΌ\ufffd\ufffdΎΫ©Ώ²³ά£έήί".toList ++
    "ϊΐόύΑΒΓΔΕΖΗ½ΘΙ«»░▒▓│┤ΚΛΜΝ╣║╗╝ΞΟ┐".toList ++
    "└┴┬├─┼ΠΡ╚╔╩╦╠═╬ΣΤΥΦΧΨΩαβγ┘┌█▄δε▀".toList ++
    "ζηθικλμνξοπρσςτ΄\u00ad±υφχ§ψ΅°¨ωϋΰώ■\u00a0".toList

/-- Code page 874, for Thai. -/
def codePage874 : Charset where
  upper :=
    "€\ufffd\ufffd\ufffd\ufffd…\ufffd\ufffd\ufffd\ufffd\ufffd\ufffd\ufffd\ufffd\ufffd".toList ++
    "\ufffd\ufffd‘’“”•–—\ufffd\ufffd\ufffd\ufffd\ufffd\ufffd\ufffd\ufffd".toList ++
    "\u00a0กขฃคฅฆงจฉชซฌญฎฏฐฑฒณดตถทธนบปผฝพฟ".toList ++
    "ภมยรฤลฦวศษสหฬอฮฯะ\u0e31าำ\u0e34\u0e35\u0e36\u0e37\u0e38\u0e39\u0e3a\ufffd\ufffd".toList ++
    "\ufffd\ufffd฿".toList ++
    "เแโใไๅๆ\u0e47\u0e48\u0e49\u0e4a\u0e4b\u0e4c\u0e4d\u0e4e๏๐๑๒๓๔๕๖๗๘๙๚๛\ufffd\ufffd".toList ++
    "\ufffd\ufffd".toList

/-- Code page 1006, for Urdu. -/
def codePage1006 : Charset where
  upper :=
    controls ++
    "\u00a0۰۱۲۳۴۵۶۷۸۹،\u061b\u00ad\u061f\ufe81\ufe8d\ufe8e\ufe8e\ufe8f\ufe91\ufb56\ufb58".toList ++
    "\ufe93\ufe95\ufe97\ufb66\ufb68\ufe99\ufe9b\ufe9d\ufe9f".toList ++
    "\ufb7a\ufb7c\ufea1\ufea3\ufea5\ufea7\ufea9\ufb84\ufeab\ufead\ufb8c\ufeaf\ufb8a\ufeb1".toList ++
    "\ufeb3\ufeb5\ufeb7\ufeb9\ufebb\ufebd\ufebf\ufec1\ufec5\ufec9\ufeca\ufecb\ufecc\ufecd".toList ++
    "\ufece\ufecf\ufed0\ufed1".toList ++
    "\ufed3\ufed5\ufed7\ufed9\ufedb\ufb92\ufb94\ufedd\ufedf\ufee0\ufee1\ufee3\ufb9e\ufee5".toList ++
    "\ufee7\ufe85\ufeed\ufba6\ufba8\ufba9\ufbaa\ufe80\ufe89\ufe8a\ufe8b\ufef1\ufef2\ufef3".toList ++
    "\ufbb0\ufbae\ufe7c\ufe7d".toList

/-- Code page 1125, for Ukrainian. -/
def codePage1125 : Charset where
  upper :=
    "АБВГДЕЖЗИЙКЛМНОПРСТУФХЦЧШЩЪЫЬЭЮЯ".toList ++
    "абвгдежзийклмноп░▒▓│┤╡╢╖╕╣║╗╝╜╛┐".toList ++
    "└┴┬├─┼╞╟╚╔╩╦╠═╬╧╨╤╥╙╘╒╓╫╪┘┌█▄▌▐▀".toList ++
    "рстуфхцчшщъыьэюяЁёҐґЄєІіЇї·√№¤■\u00a0".toList

end SchemeCheck.Encoding.Charset
