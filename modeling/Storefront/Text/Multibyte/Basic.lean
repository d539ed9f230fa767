import Storefront.Text.Multibyte.Big5
import Storefront.Text.Multibyte.EucJp
import Storefront.Text.Multibyte.EucKr
import Storefront.Text.Multibyte.Gb18030
import Storefront.Text.Multibyte.Iso2022Jp

/-!
# Encodings with characters of several bytes

The encodings of Chinese, Japanese and Korean, and the labels that name them.
-/

namespace Storefront.Text

structure Multibyte where
  labels : List String
  decode : List UInt8 → List Char

namespace Multibyte

def big5 : Multibyte where
  labels := ["big5", "big5-hkscs", "cn-big5", "csbig5", "x-x-big5"]
  decode := Big5.pairs.decode

def eucJp : Multibyte where
  labels := ["cseucpkdfmtjapanese", "euc-jp", "x-euc-jp"]
  decode := EucJp.decode

def eucKr : Multibyte where
  labels :=
    ["cseuckr", "csksc56011987", "euc-kr", "iso-ir-149", "korean", "ks_c_5601-1987", "ks_c_5601-1989", "ksc5601",
      "ksc_5601", "windows-949"]
  decode := EucKr.pairs.decode

/-- Both Chinese encodings are read alike. -/
def gb18030 : Multibyte where
  labels :=
    ["chinese", "csgb2312", "csiso58gb231280", "gb2312", "gb_2312", "gb_2312-80", "gbk", "iso-ir-58", "x-gbk",
      "gb18030"]
  decode := Gb18030.decode

def iso2022Jp : Multibyte where
  labels := ["csiso2022jp", "iso-2022-jp"]
  decode := Iso2022Jp.decode

def shiftJis : Multibyte where
  labels := ["csshiftjis", "ms932", "ms_kanji", "shift-jis", "shift_jis", "sjis", "windows-31j", "x-sjis"]
  decode := ShiftJis.pairs.decode

def all : List Multibyte :=
  [big5, eucJp, eucKr, gb18030, iso2022Jp, shiftJis]

end Multibyte

end Storefront.Text
