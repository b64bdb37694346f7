import SchemeCheck.Encoding.Charset

/-!
# SchemeCheck.Encoding.Charset.Ebcdic

EBCDIC code pages, whose lower half is not ASCII.
-/

namespace SchemeCheck.Encoding.Charset

/-- The 64 control characters that the EBCDIC code pages share. -/
def ebcdicControls : Text :=
  "\u0000\u0001\u0002\u0003\u009c\u0009\u0086\u007f\u0097\u008d\u008e\u000b\u000c\u000d".toList ++
  "\u000e\u000f\u0010\u0011\u0012\u0013\u009d\u0085\u0008\u0087\u0018\u0019\u0092\u008f".toList ++
  "\u001c\u001d\u001e\u001f".toList ++
  "\u0080\u0081\u0082\u0083\u0084\u000a\u0017\u001b\u0088\u0089\u008a\u008b\u008c\u0005".toList ++
  "\u0006\u0007\u0090\u0091\u0016\u0093\u0094\u0095\u0096\u0004\u0098\u0099\u009a\u009b".toList ++
  "\u0014\u0015\u009e\u001a".toList

/-- EBCDIC code page 37, for the United States. -/
def ebcdic037 : Charset where
  lower :=
    ebcdicControls ++
    " \u00a0âäàáãåçñ¢.<(+|&éêëèíîïìß!$*);¬".toList ++
    "-/ÂÄÀÁÃÅÇÑ¦,%_>?øÉÊËÈÍÎÏÌ`:#@'=\"".toList
  upper :=
    "Øabcdefghi«»ðýþ±°jklmnopqrªºæ¸Æ¤".toList ++
    "µ~stuvwxyz¡¿ÐÝÞ®^£¥·©§¶¼½¾[]¯¨´×".toList ++
    "\x7bABCDEFGHI\u00adôöòóõ\x7dJKLMNOPQR¹ûüùúÿ".toList ++
    "\\÷STUVWXYZ²ÔÖÒÓÕ0123456789³ÛÜÙÚ\u009f".toList

/-- EBCDIC code page 273, for Germany. -/
def ebcdic273 : Charset where
  lower :=
    ebcdicControls ++
    " \u00a0â\x7bàáãåçñÄ.<(+!&éêëèíîïì~Ü$*);^".toList ++
    "-/Â[ÀÁÃÅÇÑö,%_>?øÉÊËÈÍÎÏÌ`:#§'=\"".toList
  upper :=
    "Øabcdefghi«»ðýþ±°jklmnopqrªºæ¸Æ¤".toList ++
    "µßstuvwxyz¡¿ÐÝÞ®¢£¥·©@¶¼½¾¬|‾¨´×".toList ++
    "äABCDEFGHI\u00adô¦òóõüJKLMNOPQR¹û\x7dùúÿ".toList ++
    "Ö÷STUVWXYZ²Ô\\ÒÓÕ0123456789³Û]ÙÚ\u009f".toList

/-- EBCDIC code page 424, for Hebrew. -/
def ebcdic424 : Charset where
  lower :=
    ebcdicControls ++
    " \u05d0\u05d1\u05d2\u05d3\u05d4\u05d5\u05d6\u05d7\u05d8¢.<(+|&\u05d9\u05da\u05db".toList ++
    "\u05dc\u05dd\u05de\u05df\u05e0\u05e1!$*);¬".toList ++
    "-/\u05e2\u05e3\u05e4\u05e5\u05e6\u05e7\u05e8\u05e9¦,%_>?\ufffd\u05ea\ufffd\ufffd".toList ++
    "\u00a0\ufffd\ufffd\ufffd‗`:#@'=\"".toList
  upper :=
    "\ufffdabcdefghi«»\ufffd\ufffd\ufffd±°jklmnopqr\ufffd\ufffd\ufffd¸\ufffd¤".toList ++
    "µ~stuvwxyz\ufffd\ufffd\ufffd\ufffd\ufffd®^£¥·©§¶¼½¾[]¯¨´×".toList ++
    "\x7bABCDEFGHI\u00ad\ufffd\ufffd\ufffd\ufffd\ufffd\x7dJKLMNOPQR¹\ufffd\ufffd\ufffd".toList ++
    "\ufffd\ufffd".toList ++
    "\\÷STUVWXYZ²\ufffd\ufffd\ufffd\ufffd\ufffd0123456789³\ufffd\ufffd\ufffd\ufffd\u009f".toList

/-- EBCDIC code page 500, for Western Europe. -/
def ebcdic500 : Charset where
  lower :=
    ebcdicControls ++
    " \u00a0âäàáãåçñ[.<(+!&éêëèíîïìß]$*);^".toList ++
    "-/ÂÄÀÁÃÅÇÑ¦,%_>?øÉÊËÈÍÎÏÌ`:#@'=\"".toList
  upper :=
    "Øabcdefghi«»ðýþ±°jklmnopqrªºæ¸Æ¤".toList ++
    "µ~stuvwxyz¡¿ÐÝÞ®¢£¥·©§¶¼½¾¬|¯¨´×".toList ++
    "\x7bABCDEFGHI\u00adôöòóõ\x7dJKLMNOPQR¹ûüùúÿ".toList ++
    "\\÷STUVWXYZ²ÔÖÒÓÕ0123456789³ÛÜÙÚ\u009f".toList

/-- EBCDIC code page 875, for Greek. -/
def ebcdic875 : Charset where
  lower :=
    ebcdicControls ++
    " ΑΒΓΔΕΖΗΘΙ[.<(+!&ΚΛΜΝΞΟΠΡΣ]$*);^".toList ++
    "-/ΤΥΦΧΨΩΪΫ|,%_>?¨ΆΈΉ\u00a0ΊΌΎΏ`:#@'=\"".toList
  upper :=
    "΅abcdefghiαβγδεζ°jklmnopqrηθικλμ".toList ++
    "´~stuvwxyzνξοπρσ£άέήϊίόύϋώςτυφχψ".toList ++
    "\x7bABCDEFGHI\u00adωΐΰ‘―\x7dJKLMNOPQR±½\u001a·’¦".toList ++
    "\\\u001aSTUVWXYZ²§\u001a\u001a«¬0123456789³©\u001a\u001a»\u009f".toList

/-- EBCDIC code page 1026, for Turkish. -/
def ebcdic1026 : Charset where
  lower :=
    ebcdicControls ++
    " \u00a0âäàáãå\x7bñÇ.<(+!&éêëèíîïìßĞİ*);^".toList ++
    "-/ÂÄÀÁÃÅ[Ñş,%_>?øÉÊËÈÍÎÏÌı:ÖŞ'=Ü".toList
  upper :=
    "Øabcdefghi«»\x7d`¦±°jklmnopqrªºæ¸Æ¤".toList ++
    "µöstuvwxyz¡¿]$@®¢£¥·©§¶¼½¾¬|¯¨´×".toList ++
    "çABCDEFGHI\u00adô~òóõğJKLMNOPQR¹û\\ùúÿ".toList ++
    "ü÷STUVWXYZ²Ô#ÒÓÕ0123456789³Û\"ÙÚ\u009f".toList

/-- EBCDIC code page 1140, for the United States with the euro sign. -/
def ebcdic1140 : Charset where
  lower :=
    ebcdicControls ++
    " \u00a0âäàáãåçñ¢.<(+|&éêëèíîïìß!$*);¬".toList ++
    "-/ÂÄÀÁÃÅÇÑ¦,%_>?øÉÊËÈÍÎÏÌ`:#@'=\"".toList
  upper :=
    "Øabcdefghi«»ðýþ±°jklmnopqrªºæ¸Æ€".toList ++
    "µ~stuvwxyz¡¿ÐÝÞ®^£¥·©§¶¼½¾[]¯¨´×".toList ++
    "\x7bABCDEFGHI\u00adôöòóõ\x7dJKLMNOPQR¹ûüùúÿ".toList ++
    "\\÷STUVWXYZ²ÔÖÒÓÕ0123456789³ÛÜÙÚ\u009f".toList

end SchemeCheck.Encoding.Charset
