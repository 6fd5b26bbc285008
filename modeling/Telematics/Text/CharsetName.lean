import Telematics.Text.Charset
import Telematics.Text.CodePage.Desktop
import Telematics.Text.CodePage.Dos
import Telematics.Text.CodePage.Ebcdic
import Telematics.Text.CodePage.National

/-!
Names of encodings. Case does not matter, and neither do the marks between words. There are also
names of transformations that give no texts; they are known, but nothing can be read with them.

* `plainName`: a name without what does not matter.
* `codecNamed?`: what a name stands for.
-/

namespace Telematics.Text

/-- What the name of an encoding stands for. -/
inductive Codec where
  | text (charset : Charset)
  /-- A transformation of bytes that gives no text. -/
  | bytes
deriving DecidableEq, Repr

/-- A codec with its own name and other names. -/
structure NamedCodec where
  name : String
  aliases : List String
  codec : Codec
deriving DecidableEq, Repr

/-- The codec of a code page. -/
def NamedCodec.ofPage (page : CodePage) : NamedCodec :=
  ⟨page.name, page.aliases, .text (.pieces (.codePage page))⟩

/-- The codecs of Unicode and of ASCII, and the transformations. -/
def generalCodecs : List NamedCodec := [
  ⟨"utf_8", ["cp65001", "u8", "utf", "utf8", "utf8_ucs2", "utf8_ucs4"], .text (.pieces .utf8)⟩,
  ⟨"utf_8_sig", [], .text (.pieces .markedUtf8)⟩,
  ⟨"latin_1", ["8859", "cp819", "csisolatin1", "ibm819", "iso8859", "iso8859_1", "iso_8859_1",
    "iso_8859_1_1987", "iso_ir_100", "l1", "latin", "latin1"], .text (.pieces .latin1)⟩,
  ⟨"charmap", [], .text (.pieces .latin1)⟩,
  ⟨"ascii", ["646", "ansi_x3.4_1968", "ansi_x3.4_1986", "ansi_x3_4_1968", "cp367", "csascii",
    "ibm367", "iso646_us", "iso_646.irv_1991", "iso_ir_6", "us", "us_ascii"],
    .text (.pieces .ascii)⟩,
  ⟨"utf_16", ["u16", "utf16"], .text (.pieces (.utf16 none))⟩,
  ⟨"utf_16_le", ["unicodelittleunmarked", "utf_16le"],
    .text (.pieces (.utf16 (some .littleEndian)))⟩,
  ⟨"utf_16_be", ["unicodebigunmarked", "utf_16be"], .text (.pieces (.utf16 (some .bigEndian)))⟩,
  ⟨"utf_32", ["u32", "utf32"], .text (.pieces (.utf32 none))⟩,
  ⟨"utf_32_le", ["utf_32le"], .text (.pieces (.utf32 (some .littleEndian)))⟩,
  ⟨"utf_32_be", ["utf_32be"], .text (.pieces (.utf32 (some .bigEndian)))⟩,
  ⟨"utf_7", ["u7", "unicode_1_1_utf_7", "utf7"], .text (.pieces .utf7)⟩,
  ⟨"unicode_escape", [], .text (.pieces .escaped)⟩,
  ⟨"raw_unicode_escape", [], .text (.pieces .escapedCodePoints)⟩,
  ⟨"base64_codec", ["base64", "base_64"], .bytes⟩,
  ⟨"bz2_codec", ["bz2"], .bytes⟩,
  ⟨"hex_codec", ["hex"], .bytes⟩,
  ⟨"quopri_codec", ["quopri", "quoted_printable", "quotedprintable"], .bytes⟩,
  ⟨"rot_13", ["rot13"], .bytes⟩,
  ⟨"uu_codec", ["uu"], .bytes⟩,
  ⟨"zlib_codec", ["zip", "zlib"], .bytes⟩,
  ⟨"punycode", [], .text .punycode⟩,
  ⟨"idna", [], .text .domain⟩,
  ⟨"undefined", [], .text .undefined⟩]

/-- The codecs of the large character sets. -/
def largeCodecs : List NamedCodec := [
  ⟨"gb2312", ["chinese", "csiso58gb231280", "euc_cn", "euccn", "eucgb2312_cn", "gb2312_1980",
    "gb2312_80", "iso_ir_58", "x_mac_simp_chinese"], .text (.pieces (.multiByte .gb2312))⟩,
  ⟨"gbk", ["936", "cp936", "ms936"], .text (.pieces (.multiByte .gbk))⟩,
  ⟨"gb18030", ["gb18030_2000"], .text (.pieces (.multiByte .gb18030))⟩,
  ⟨"hz", ["hz_gb", "hz_gb_2312", "hzgb"], .text (.pieces .hz)⟩,
  ⟨"big5", ["big5_tw", "csbig5", "x_mac_trad_chinese"], .text (.pieces (.multiByte .big5))⟩,
  ⟨"big5hkscs", ["big5_hkscs", "hkscs"], .text (.pieces (.multiByte .big5HongKong))⟩,
  ⟨"cp950", ["950", "ms950"], .text (.pieces (.multiByte .page950))⟩,
  ⟨"shift_jis", ["csshiftjis", "s_jis", "shiftjis", "sjis", "x_mac_japanese"],
    .text (.pieces (.multiByte .shiftJis))⟩,
  ⟨"shift_jis_2004", ["s_jis_2004", "shiftjis2004", "sjis_2004"],
    .text (.pieces (.multiByte (.shiftJisLevels .of2004)))⟩,
  ⟨"shift_jisx0213", ["s_jisx0213", "shiftjisx0213", "sjisx0213"],
    .text (.pieces (.multiByte (.shiftJisLevels .of2000)))⟩,
  ⟨"cp932", ["932", "ms932", "ms_kanji", "mskanji"], .text (.pieces (.multiByte .page932))⟩,
  ⟨"euc_jp", ["eucjp", "u_jis", "ujis"], .text (.pieces (.multiByte .eucJapanese))⟩,
  ⟨"euc_jis_2004", ["euc_jis2004", "eucjis2004", "jisx0213"],
    .text (.pieces (.multiByte (.eucJapaneseLevels .of2004)))⟩,
  ⟨"euc_jisx0213", ["eucjisx0213"], .text (.pieces (.multiByte (.eucJapaneseLevels .of2000)))⟩,
  ⟨"iso2022_jp", ["csiso2022jp", "iso2022jp", "iso_2022_jp"], .text (.pieces (.iso2022 .japanese))⟩,
  ⟨"iso2022_jp_1", ["iso2022jp_1", "iso_2022_jp_1"], .text (.pieces (.iso2022 .japanese1))⟩,
  ⟨"iso2022_jp_2", ["iso2022jp_2", "iso_2022_jp_2"], .text (.pieces (.iso2022 .japanese2))⟩,
  ⟨"iso2022_jp_3", ["iso2022jp_3", "iso_2022_jp_3"],
    .text (.pieces (.iso2022 (.japaneseLevels .of2000)))⟩,
  ⟨"iso2022_jp_2004", ["iso2022jp_2004", "iso_2022_jp_2004"],
    .text (.pieces (.iso2022 (.japaneseLevels .of2004)))⟩,
  ⟨"iso2022_jp_ext", ["iso2022jp_ext", "iso_2022_jp_ext"],
    .text (.pieces (.iso2022 .japaneseExtended))⟩,
  ⟨"euc_kr", ["euckr", "korean", "ks_c_5601", "ks_c_5601_1987", "ks_x_1001", "ksc5601", "ksx1001",
    "x_mac_korean"], .text (.pieces (.multiByte .eucKorean))⟩,
  ⟨"cp949", ["949", "ms949", "uhc"], .text (.pieces (.multiByte .page949))⟩,
  ⟨"johab", ["cp1361", "ms1361"], .text (.pieces (.multiByte .johab))⟩,
  ⟨"iso2022_kr", ["csiso2022kr", "iso2022kr", "iso_2022_kr"], .text (.pieces (.iso2022 .korean))⟩]

/-- All codecs. -/
def codecs : List NamedCodec :=
  generalCodecs ++ largeCodecs ++
    (isoPages ++ windowsPages ++ dosPages ++ macPages ++ nationalPages ++ ebcdicPages).map
      NamedCodec.ofPage

/-- A name in lower case, with each run of other characters than letters, digits and points as one
    underscore. -/
def plainName (name : List Char) : List Char :=
  (name.foldl (fun (read, gap) c =>
    if c.isAlphanum || c = '.' then
      (c.toLower :: (if gap && !read.isEmpty then '_' :: read else read), false)
    else (read, true)) (([] : List Char), false)).1.reverse

/-- A name with underscores for its points. -/
def withoutPoints (name : List Char) : List Char := name.map fun c => if c = '.' then '_' else c

/-- The codec goes by a name. A point in an alias may be written for an underscore. -/
def NamedCodec.goesBy (codec : NamedCodec) (name : List Char) : Bool :=
  codec.name = String.ofList name || codec.aliases.contains (String.ofList name) ||
    codec.aliases.contains (String.ofList (withoutPoints name))

/-- The codec of a name. -/
def codecNamed? (name : String) : Option Codec :=
  let plain := plainName name.toList
  (codecs.find? (·.goesBy plain)).map (·.codec)

end Telematics.Text
