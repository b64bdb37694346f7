import SchemeCheck.Encoding.Basic
import SchemeCheck.Encoding.Charset.Ebcdic
import SchemeCheck.Encoding.Charset.CodePages
import SchemeCheck.Encoding.Charset.Macintosh
import SchemeCheck.Encoding.Charset.Regional

/-!
# SchemeCheck.Encoding.Name

Encodings by name.  Case does not matter in a name, and neither does which
punctuation separates its parts.  Besides its registered name an encoding has
others; only those are known with a point in them.
-/

namespace SchemeCheck.Encoding

/-- An encoding with its registered name and its other names. -/
structure Entry where
  name : String
  encoding : Encoding
  others : List String := []

/-- The encodings and their names. -/
def registry : List Entry :=
  [ { name := "utf_8", encoding := .utf8,
      others :=
        ["u8", "utf", "utf8", "utf8_ucs2", "utf8_ucs4", "cp65001"] },
    { name := "utf_8_sig", encoding := .utf8Signed },
    { name := "utf_16", encoding := .utf16 none, others := ["u16", "utf16"] },
    { name := "utf_16_le", encoding := .utf16 (some .little),
      others :=
        ["unicodelittleunmarked", "utf_16le"] },
    { name := "utf_16_be", encoding := .utf16 (some .big),
      others :=
        ["unicodebigunmarked", "utf_16be"] },
    { name := "utf_32", encoding := .utf32 none, others := ["u32", "utf32"] },
    { name := "utf_32_le", encoding := .utf32 (some .little), others := ["utf_32le"] },
    { name := "utf_32_be", encoding := .utf32 (some .big), others := ["utf_32be"] },
    { name := "ascii", encoding := .ascii,
      others :=
        ["646", "ansi_x3.4_1968", "ansi_x3_4_1968", "ansi_x3.4_1986", "cp367", "csascii",
         "ibm367", "iso646_us", "iso_646.irv_1991", "iso_ir_6", "us", "us_ascii"] },
    { name := "latin_1", encoding := .latin1,
      others :=
        ["8859", "cp819", "csisolatin1", "ibm819", "iso8859", "iso8859_1", "iso_8859_1",
         "iso_8859_1_1987", "iso_ir_100", "l1", "latin", "latin1"] },
    { name := "cp437", encoding := .charset .codePage437,
      others :=
        ["437", "cspc8codepage437", "ibm437"] },
    { name := "cp850", encoding := .charset .codePage850,
      others :=
        ["850", "cspc850multilingual", "ibm850"] },
    { name := "cp852", encoding := .charset .codePage852, others := ["852", "cspcp852", "ibm852"] },
    { name := "cp866", encoding := .charset .codePage866, others := ["866", "csibm866", "ibm866"] },
    { name := "cp1250", encoding := .charset .windows1250, others := ["1250", "windows_1250"] },
    { name := "cp1251", encoding := .charset .windows1251, others := ["1251", "windows_1251"] },
    { name := "cp1252", encoding := .charset .windows1252, others := ["1252", "windows_1252"] },
    { name := "cp1253", encoding := .charset .windows1253, others := ["1253", "windows_1253"] },
    { name := "cp1254", encoding := .charset .windows1254, others := ["1254", "windows_1254"] },
    { name := "cp1255", encoding := .charset .windows1255, others := ["1255", "windows_1255"] },
    { name := "cp1256", encoding := .charset .windows1256, others := ["1256", "windows_1256"] },
    { name := "cp1257", encoding := .charset .windows1257, others := ["1257", "windows_1257"] },
    { name := "cp1258", encoding := .charset .windows1258, others := ["1258", "windows_1258"] },
    { name := "iso8859_2", encoding := .charset .iso8859Part2,
      others :=
        ["csisolatin2", "iso_8859_2", "iso_8859_2_1987", "iso_ir_101", "l2", "latin2"] },
    { name := "iso8859_3", encoding := .charset .iso8859Part3,
      others :=
        ["csisolatin3", "iso_8859_3", "iso_8859_3_1988", "iso_ir_109", "l3", "latin3"] },
    { name := "iso8859_4", encoding := .charset .iso8859Part4,
      others :=
        ["csisolatin4", "iso_8859_4", "iso_8859_4_1988", "iso_ir_110", "l4", "latin4"] },
    { name := "iso8859_5", encoding := .charset .iso8859Part5,
      others :=
        ["csisolatincyrillic", "cyrillic", "iso_8859_5", "iso_8859_5_1988", "iso_ir_144"] },
    { name := "iso8859_6", encoding := .charset .iso8859Part6,
      others :=
        ["arabic", "asmo_708", "csisolatinarabic", "ecma_114", "iso_8859_6", "iso_8859_6_1987",
         "iso_ir_127"] },
    { name := "iso8859_7", encoding := .charset .iso8859Part7,
      others :=
        ["csisolatingreek", "ecma_118", "elot_928", "greek", "greek8", "iso_8859_7",
         "iso_8859_7_1987", "iso_ir_126"] },
    { name := "iso8859_8", encoding := .charset .iso8859Part8,
      others :=
        ["csisolatinhebrew", "hebrew", "iso_8859_8", "iso_8859_8_1988", "iso_ir_138"] },
    { name := "iso8859_9", encoding := .charset .iso8859Part9,
      others :=
        ["csisolatin5", "iso_8859_9", "iso_8859_9_1989", "iso_ir_148", "l5", "latin5"] },
    { name := "iso8859_10", encoding := .charset .iso8859Part10,
      others :=
        ["csisolatin6", "iso_8859_10", "iso_8859_10_1992", "iso_ir_157", "l6", "latin6"] },
    { name := "iso8859_11", encoding := .charset .iso8859Part11,
      others :=
        ["thai", "iso_8859_11", "iso_8859_11_2001"] },
    { name := "iso8859_13", encoding := .charset .iso8859Part13,
      others :=
        ["iso_8859_13", "l7", "latin7"] },
    { name := "iso8859_14", encoding := .charset .iso8859Part14,
      others :=
        ["iso_8859_14", "iso_8859_14_1998", "iso_celtic", "iso_ir_199", "l8", "latin8"] },
    { name := "iso8859_15", encoding := .charset .iso8859Part15,
      others :=
        ["iso_8859_15", "l9", "latin9"] },
    { name := "iso8859_16", encoding := .charset .iso8859Part16,
      others :=
        ["iso_8859_16", "iso_8859_16_2001", "iso_ir_226", "l10", "latin10"] },
    { name := "koi8_r", encoding := .charset .koi8R, others := ["cskoi8r"] },
    { name := "koi8_u", encoding := .charset .koi8U },
    { name := "mac_roman", encoding := .charset .macRoman, others := ["macintosh", "macroman"] },
    { name := "big5", encoding := .multibyte .big5,
      others :=
        ["big5_tw", "csbig5", "x_mac_trad_chinese"] },
    { name := "big5hkscs", encoding := .multibyte .hongKong, others := ["big5_hkscs", "hkscs"] },
    { name := "charmap", encoding := .latin1 },
    { name := "cp037", encoding := .charset .ebcdic037,
      others :=
        ["037", "csibm037", "ebcdic_cp_ca", "ebcdic_cp_nl", "ebcdic_cp_us", "ebcdic_cp_wt",
         "ibm037", "ibm039"] },
    { name := "cp1006", encoding := .charset .codePage1006 },
    { name := "cp1026", encoding := .charset .ebcdic1026,
      others :=
        ["1026", "csibm1026", "ibm1026"] },
    { name := "cp1125", encoding := .charset .codePage1125,
      others :=
        ["1125", "ibm1125", "cp866u", "ruscii"] },
    { name := "cp1140", encoding := .charset .ebcdic1140, others := ["1140", "ibm1140"] },
    { name := "cp273", encoding := .charset .ebcdic273, others := ["273", "ibm273", "csibm273"] },
    { name := "cp424", encoding := .charset .ebcdic424,
      others :=
        ["424", "csibm424", "ebcdic_cp_he", "ibm424"] },
    { name := "cp500", encoding := .charset .ebcdic500,
      others :=
        ["500", "csibm500", "ebcdic_cp_be", "ebcdic_cp_ch", "ibm500"] },
    { name := "cp720", encoding := .charset .codePage720 },
    { name := "cp737", encoding := .charset .codePage737 },
    { name := "cp775", encoding := .charset .codePage775, others := ["775", "cspc775baltic", "ibm775"] },
    { name := "cp855", encoding := .charset .codePage855, others := ["855", "csibm855", "ibm855"] },
    { name := "cp856", encoding := .charset .codePage856 },
    { name := "cp857", encoding := .charset .codePage857, others := ["857", "csibm857", "ibm857"] },
    { name := "cp858", encoding := .charset .codePage858, others := ["858", "csibm858", "ibm858"] },
    { name := "cp860", encoding := .charset .codePage860, others := ["860", "csibm860", "ibm860"] },
    { name := "cp861", encoding := .charset .codePage861,
      others :=
        ["861", "cp_is", "csibm861", "ibm861"] },
    { name := "cp862", encoding := .charset .codePage862,
      others :=
        ["862", "cspc862latinhebrew", "ibm862"] },
    { name := "cp863", encoding := .charset .codePage863, others := ["863", "csibm863", "ibm863"] },
    { name := "cp864", encoding := .charset .codePage864, others := ["864", "csibm864", "ibm864"] },
    { name := "cp865", encoding := .charset .codePage865, others := ["865", "csibm865", "ibm865"] },
    { name := "cp869", encoding := .charset .codePage869,
      others :=
        ["869", "cp_gr", "csibm869", "ibm869"] },
    { name := "cp874", encoding := .charset .codePage874 },
    { name := "cp875", encoding := .charset .ebcdic875 },
    { name := "cp932", encoding := .multibyte .windows932,
      others :=
        ["932", "ms932", "mskanji", "ms_kanji"] },
    { name := "cp949", encoding := .multibyte .windows949, others := ["949", "ms949", "uhc"] },
    { name := "cp950", encoding := .multibyte .windows950, others := ["950", "ms950"] },
    { name := "euc_jis_2004", encoding := .multibyte (.eucExtended .of2004),
      others :=
        ["jisx0213", "eucjis2004", "euc_jis2004"] },
    { name := "euc_jisx0213", encoding := .multibyte (.eucExtended .of2000),
      others :=
        ["eucjisx0213"] },
    { name := "euc_jp", encoding := .multibyte .eucJp, others := ["eucjp", "ujis", "u_jis"] },
    { name := "euc_kr", encoding := .multibyte .eucKr,
      others :=
        ["euckr", "korean", "ksc5601", "ks_c_5601", "ks_c_5601_1987", "ksx1001", "ks_x_1001",
         "x_mac_korean"] },
    { name := "gb18030", encoding := .multibyte .gb18030, others := ["gb18030_2000"] },
    { name := "gb2312", encoding := .multibyte .gb2312,
      others :=
        ["chinese", "csiso58gb231280", "euc_cn", "euccn", "eucgb2312_cn", "gb2312_1980",
         "gb2312_80", "iso_ir_58", "x_mac_simp_chinese"] },
    { name := "gbk", encoding := .multibyte .gbk, others := ["936", "cp936", "ms936"] },
    { name := "hp_roman8", encoding := .charset .roman8,
      others :=
        ["roman8", "r8", "cp1051", "ibm1051"] },
    { name := "hz", encoding := .hz, others := ["hzgb", "hz_gb", "hz_gb_2312"] },
    { name := "idna", encoding := .called [] .domainName },
    { name := "iso2022_jp", encoding := .iso2022 .jp,
      others :=
        ["csiso2022jp", "iso2022jp", "iso_2022_jp"] },
    { name := "iso2022_jp_1", encoding := .iso2022 .jp1,
      others :=
        ["iso2022jp_1", "iso_2022_jp_1"] },
    { name := "iso2022_jp_2", encoding := .iso2022 .jp2,
      others :=
        ["iso2022jp_2", "iso_2022_jp_2"] },
    { name := "iso2022_jp_2004", encoding := .iso2022 .jp2004,
      others :=
        ["iso_2022_jp_2004", "iso2022jp_2004"] },
    { name := "iso2022_jp_3", encoding := .iso2022 .jp3,
      others :=
        ["iso2022jp_3", "iso_2022_jp_3"] },
    { name := "iso2022_jp_ext", encoding := .iso2022 .jpExtended,
      others :=
        ["iso2022jp_ext", "iso_2022_jp_ext"] },
    { name := "iso2022_kr", encoding := .iso2022 .kr,
      others :=
        ["csiso2022kr", "iso2022kr", "iso_2022_kr"] },
    { name := "johab", encoding := .multibyte .johab, others := ["cp1361", "ms1361"] },
    { name := "koi8_t", encoding := .charset .koi8T },
    { name := "kz1048", encoding := .charset .kz1048,
      others :=
        ["kz_1048", "rk1048", "strk1048_2002"] },
    { name := "mac_arabic", encoding := .charset .macArabic },
    { name := "mac_croatian", encoding := .charset .macCroatian },
    { name := "mac_cyrillic", encoding := .charset .macCyrillic, others := ["maccyrillic"] },
    { name := "mac_farsi", encoding := .charset .macFarsi },
    { name := "mac_greek", encoding := .charset .macGreek, others := ["macgreek"] },
    { name := "mac_iceland", encoding := .charset .macIceland, others := ["maciceland"] },
    { name := "mac_latin2", encoding := .charset .macLatin2,
      others :=
        ["maccentraleurope", "mac_centeuro", "maclatin2"] },
    { name := "mac_romanian", encoding := .charset .macRomanian },
    { name := "mac_turkish", encoding := .charset .macTurkish, others := ["macturkish"] },
    { name := "palmos", encoding := .charset .palmOs },
    { name := "ptcp154", encoding := .charset .ptcp154,
      others :=
        ["csptcp154", "pt154", "cp154", "cyrillic_asian"] },
    { name := "punycode", encoding := .called [] .punycode },
    { name := "raw_unicode_escape", encoding := .escaped .raw },
    { name := "shift_jis", encoding := .multibyte .shiftJis,
      others :=
        ["csshiftjis", "shiftjis", "sjis", "s_jis", "x_mac_japanese"] },
    { name := "shift_jis_2004", encoding := .multibyte (.shiftExtended .of2004),
      others :=
        ["shiftjis2004", "sjis_2004", "s_jis_2004"] },
    { name := "shift_jisx0213", encoding := .multibyte (.shiftExtended .of2000),
      others :=
        ["shiftjisx0213", "sjisx0213", "s_jisx0213"] },
    { name := "tis_620", encoding := .charset .tis620,
      others :=
        ["tis620", "tis_620_0", "tis_620_2529_0", "tis_620_2529_1", "iso_ir_166"] },
    { name := "undefined", encoding := .called [] .undefinedEncoding },
    { name := "unicode_escape", encoding := .escaped .full },
    { name := "utf_7", encoding := .utf7, others := ["u7", "utf7", "unicode_1_1_utf_7"] } ]

/-- The registered names of transformations that are not between text and bytes. -/
def otherTransformations : List String :=
  ["rot_13", "hex_codec", "base64_codec", "bz2_codec", "zlib_codec", "uu_codec", "quopri_codec"]

/-- Their other names. -/
def otherTransformationNames : List String :=
  ["rot13", "hex", "base64", "base_64", "bz2", "zip", "zlib", "uu", "quopri",
   "quoted_printable", "quotedprintable"]

/-- The form in which names are compared: lower-case letters and digits of
ASCII and points, with one underscore for whatever separates them. -/
def plainName (name : Text) : Text :=
  let step (acc : Text × Bool) (c : Char) : Text × Bool :=
    if c.isAlphanum || c = '.' then
      (if acc.2 && !acc.1.isEmpty then c.toLower :: '_' :: acc.1 else c.toLower :: acc.1, false)
    else (acc.1, true)
  (name.foldl step ([], false)).1.reverse

/-- Why a name stands for no encoding. -/
inductive LookupFailure where
  | unknown (name : Text)
  /-- The name stands for a transformation that is not between text and bytes. -/
  | notTextual (name : Text)
  /-- The name holds the character U+0000. -/
  | null
  deriving DecidableEq

/-- What an encoding is looked up for. -/
inductive Use where
  /-- To turn text into bytes. -/
  | encode
  /-- To read a file. -/
  | openFile
  deriving DecidableEq

def LookupFailure.message (use : Use) : LookupFailure → Text
  | .unknown name => "unknown encoding: ".toList ++ name
  | .notTextual name =>
    '\'' :: name ++ "' is not a text encoding; use codecs.".toList ++
      (match use with
       | .encode => "encode".toList
       | .openFile => "open".toList) ++
      "() to handle arbitrary codecs".toList
  | .null => "embedded null character".toList

/-- An encoding that was called by a name: transformations tell it in messages. -/
def calledBy (name : Text) : Encoding → Encoding
  | called _ transformation => called name transformation
  | encoding => encoding

/-- The encoding that a name stands for. -/
def lookup (name : Text) : Except LookupFailure Encoding :=
  let plain := String.ofList (plainName name)
  let pointless := String.ofList ((plainName name).map fun c => if c = '.' then '_' else c)
  if name.contains '\x00' then .error .null
  else
    match registry.find? (fun entry =>
        entry.others.contains plain || entry.others.contains pointless || entry.name == plain) with
    | some entry => .ok (entry.encoding.calledBy name)
    | none =>
      if otherTransformationNames.contains plain || otherTransformationNames.contains pointless ||
          otherTransformations.contains plain then
        .error (.notTextual name)
      else .error (.unknown name)

end SchemeCheck.Encoding
