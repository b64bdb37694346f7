import SchemeCheck.Encoding.Charset

/-!
# SchemeCheck.Encoding.Charset.Macintosh

Character sets of Mac OS.
-/

namespace SchemeCheck.Encoding.Charset

/-- Mac OS Arabic, in which many marks of ASCII stand a second time. -/
def macArabic : Charset where
  upper :=
    "Ä\u00a0ÇÉÑÖÜáàâä\u06ba«çéèêëí…îïñó»ôö÷úùûü".toList ++
    " !\"#$٪&'()*+،-./\u0660\u0661\u0662\u0663\u0664\u0665\u0666\u0667\u0668\u0669:\u061b".toList ++
    "<=>\u061f".toList ++
    "❊\u0621\u0622\u0623\u0624\u0625\u0626\u0627\u0628\u0629\u062a\u062b\u062c\u062d".toList ++
    "\u062e\u062f\u0630\u0631\u0632\u0633\u0634\u0635\u0636\u0637\u0638\u0639\u063a[\\]^_".toList ++
    "\u0640\u0641\u0642\u0643\u0644\u0645\u0646\u0647\u0648\u0649\u064a\u064b\u064c\u064d".toList ++
    "\u064e\u064f\u0650\u0651\u0652\u067e\u0679\u0686\u06d5\u06a4\u06af\u0688\u0691\x7b|".toList ++
    "\x7d\u0698\u06d2".toList

/-- Mac OS Croatian. -/
def macCroatian : Charset where
  upper :=
    "ÄÅÇÉÑÖÜáàâäãåçéèêëíìîïñóòôöõúùûü".toList ++
    "†°¢£§•¶ß®Š™´¨≠ŽØ∞±≤≥∆µ∂∑∏š∫ªºΩžø".toList ++
    "¿¡¬√ƒ≈Ć«Č…\u00a0ÀÃÕŒœĐ—“”‘’÷◊\uf8ff©⁄€‹›Æ»".toList ++
    "–·‚„‰ÂćÁčÈÍÎÏÌÓÔđÒÚÛÙıˆ˜¯πË˚¸Êæˇ".toList

/-- Mac OS Cyrillic. -/
def macCyrillic : Charset where
  upper :=
    "АБВГДЕЖЗИЙКЛМНОПРСТУФХЦЧШЩЪЫЬЭЮЯ".toList ++
    "†°Ґ£§•¶І®©™Ђђ≠Ѓѓ∞±≤≥іµґЈЄєЇїЉљЊњ".toList ++
    "јЅ¬√ƒ≈∆«»…\u00a0ЋћЌќѕ–—“”‘’÷„ЎўЏџ№Ёёя".toList ++
    "абвгдежзийклмнопрстуфхцчшщъыьэю€".toList

/-- Mac OS Farsi, in which many marks of ASCII stand a second time. -/
def macFarsi : Charset where
  upper :=
    "Ä\u00a0ÇÉÑÖÜáàâä\u06ba«çéèêëí…îïñó»ôö÷úùûü".toList ++
    " !\"#$٪&'()*+،-./۰۱۲۳۴۵۶۷۸۹:\u061b<=>\u061f".toList ++
    "❊\u0621\u0622\u0623\u0624\u0625\u0626\u0627\u0628\u0629\u062a\u062b\u062c\u062d".toList ++
    "\u062e\u062f\u0630\u0631\u0632\u0633\u0634\u0635\u0636\u0637\u0638\u0639\u063a[\\]^_".toList ++
    "\u0640\u0641\u0642\u0643\u0644\u0645\u0646\u0647\u0648\u0649\u064a\u064b\u064c\u064d".toList ++
    "\u064e\u064f\u0650\u0651\u0652\u067e\u0679\u0686\u06d5\u06a4\u06af\u0688\u0691\x7b|".toList ++
    "\x7d\u0698\u06d2".toList

/-- Mac OS Greek. -/
def macGreek : Charset where
  upper :=
    "Ä¹²É³ÖÜ΅àâä΄¨çéèêë£™îï•½‰ôö¦€ùûü".toList ++
    "†ΓΔΘΛΞΠß®©ΣΪ§≠°·Α±≤≥¥ΒΕΖΗΙΚΜΦΫΨΩ".toList ++
    "άΝ¬ΟΡ≈Τ«»…\u00a0ΥΧΆΈœ–―“”‘’÷ΉΊΌΎέήίόΏ".toList ++
    "ύαβψδεφγηιξκλμνοπώρστθωςχυζϊϋΐΰ\u00ad".toList

/-- Mac OS Icelandic. -/
def macIceland : Charset where
  upper :=
    "ÄÅÇÉÑÖÜáàâäãåçéèêëíìîïñóòôöõúùûü".toList ++
    "Ý°¢£§•¶ß®©™´¨≠ÆØ∞±≤≥¥µ∂∑∏π∫ªºΩæø".toList ++
    "¿¡¬√ƒ≈∆«»…\u00a0ÀÃÕŒœ–—“”‘’÷◊ÿŸ⁄€ÐðÞþ".toList ++
    "ý·‚„‰ÂÊÁËÈÍÎÏÌÓÔ\uf8ffÒÚÛÙıˆ˜¯˘˙˚¸˝˛ˇ".toList

/-- Mac OS Central European. -/
def macLatin2 : Charset where
  upper :=
    "ÄĀāÉĄÖÜáąČäčĆćéŹźĎíďĒēĖóėôöõúĚěü".toList ++
    "†°Ę£§•¶ß®©™ę¨≠ģĮįĪ≤≥īĶ∂∑łĻļĽľĹĺŅ".toList ++
    "ņŃ¬√ńŇ∆«»…\u00a0ňŐÕőŌ–—“”‘’÷◊ōŔŕŘ‹›řŖ".toList ++
    "ŗŠ‚„šŚśÁŤťÍŽžŪÓÔūŮÚůŰűŲųÝýķŻŁżĢˇ".toList

/-- Mac OS Romanian. -/
def macRomanian : Charset where
  upper :=
    "ÄÅÇÉÑÖÜáàâäãåçéèêëíìîïñóòôöõúùûü".toList ++
    "†°¢£§•¶ß®©™´¨≠ĂȘ∞±≤≥¥µ∂∑∏π∫ªºΩăș".toList ++
    "¿¡¬√ƒ≈∆«»…\u00a0ÀÃÕŒœ–—“”‘’÷◊ÿŸ⁄€‹›Țț".toList ++
    "‡·‚„‰ÂÊÁËÈÍÎÏÌÓÔ\uf8ffÒÚÛÙıˆ˜¯˘˙˚¸˝˛ˇ".toList

/-- Mac OS Turkish. -/
def macTurkish : Charset where
  upper :=
    "ÄÅÇÉÑÖÜáàâäãåçéèêëíìîïñóòôöõúùûü".toList ++
    "†°¢£§•¶ß®©™´¨≠ÆØ∞±≤≥¥µ∂∑∏π∫ªºΩæø".toList ++
    "¿¡¬√ƒ≈∆«»…\u00a0ÀÃÕŒœ–—“”‘’÷◊ÿŸĞğİıŞş".toList ++
    "‡·‚„‰ÂÊÁËÈÍÎÏÌÓÔ\uf8ffÒÚÛÙ\uf8a0ˆ˜¯˘˙˚¸˝˛ˇ".toList

end SchemeCheck.Encoding.Charset
