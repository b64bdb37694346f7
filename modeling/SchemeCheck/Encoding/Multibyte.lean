import SchemeCheck.Encoding.Multibyte.Chinese
import SchemeCheck.Encoding.Multibyte.Japanese
import SchemeCheck.Encoding.Multibyte.Korean
import SchemeCheck.Encoding.Multibyte.Taiwanese

/-!
# SchemeCheck.Encoding.Multibyte

The encodings with one and more bytes a character, in which every byte means
the same wherever a character starts.
-/

namespace SchemeCheck.Encoding

/-- An encoding with one and more bytes a character. -/
inductive Multibyte where
  | shiftJis
  | windows932
  | shiftExtended (edition : Multibyte.Edition)
  | eucJp
  | eucExtended (edition : Multibyte.Edition)
  | gb2312
  | gbk
  | gb18030
  | big5
  | windows950
  | hongKong
  | eucKr
  | windows949
  | johab
  deriving DecidableEq

namespace Multibyte

def codec : Multibyte → String
  | shiftJis => "shift_jis"
  | windows932 => "cp932"
  | shiftExtended .of2000 => "shift_jisx0213"
  | shiftExtended .of2004 => "shift_jis_2004"
  | eucJp => "euc_jp"
  | eucExtended .of2000 => "euc_jisx0213"
  | eucExtended .of2004 => "euc_jis_2004"
  | gb2312 => "gb2312"
  | gbk => "gbk"
  | gb18030 => "gb18030"
  | big5 => "big5"
  | windows950 => "cp950"
  | hongKong => "big5hkscs"
  | eucKr => "euc_kr"
  | windows949 => "cp949"
  | johab => "johab"

def front : Multibyte → UInt8 → List UInt8 → Front
  | shiftJis => shiftJisFront
  | windows932 => windows932Front
  | shiftExtended edition => shiftExtendedFront edition
  | eucJp => eucJpFront
  | eucExtended edition => eucExtendedFront edition
  | gb2312 => gb2312Front
  | gbk => gbkFront
  | gb18030 => gb18030Front
  | big5 => big5Front
  | windows950 => windows950Front
  | hongKong => hongKongFront
  | eucKr => eucKrFront
  | windows949 => windows949Front
  | johab => johabFront

def writer : Multibyte → Writer
  | shiftJis => shiftJisWriter
  | windows932 => windows932Writer
  | shiftExtended edition => shiftExtendedWriter edition
  | eucJp => eucJpWriter
  | eucExtended edition => eucExtendedWriter edition
  | gb2312 => gb2312Writer
  | gbk => gbkWriter
  | gb18030 => gb18030Writer
  | big5 => big5Writer
  | windows950 => windows950Writer
  | hongKong => hongKongWriter
  | eucKr => eucKrWriter
  | windows949 => windows949Writer
  | johab => johabWriter

end Multibyte

end SchemeCheck.Encoding
