import Storefront.Text.CodePage
import Storefront.Text.Multibyte.Basic
import Storefront.Text.Utf16
import Storefront.Text.Utf8

/-!
# Encodings

The encodings that a label can name, and the text of bytes in one of them.
-/

namespace Storefront.Text

inductive Encoding where
  | utf8
  | utf16 (bigEndian : Bool)
  | codePage (p : CodePage)
  | multibyte (m : Multibyte)
  /-- Bytes from `0x80` on are characters for private use. -/
  | userDefined
  /-- Any text is one replacement character. -/
  | refused

namespace Encoding

def utf8Labels : List String :=
  ["unicode-1-1-utf-8", "unicode11utf8", "unicode20utf8", "utf-8", "utf8", "x-unicode20utf8"]

def bigEndianLabels : List String :=
  ["unicodefffe", "utf-16be"]

def littleEndianLabels : List String :=
  ["csunicode", "iso-10646-ucs-2", "ucs-2", "unicode", "unicodefeff", "utf-16", "utf-16le"]

def refusedLabels : List String :=
  ["csiso2022kr", "hz-gb-2312", "iso-2022-cn", "iso-2022-cn-ext", "iso-2022-kr", "replacement"]

def isLabelSpace (c : Char) : Bool :=
  c == '\t' || c == '\n' || c == '\x0C' || c == '\r' || c == ' '

/-- The encoding that a label names, whatever the case of its letters. -/
def ofLabel? (label : String) : Option Encoding :=
  let trimmed := ((label.toList.dropWhile isLabelSpace).reverse.dropWhile isLabelSpace).reverse
  let label := String.ofList (trimmed.map Char.toLower)
  if utf8Labels.contains label then some .utf8
  else if bigEndianLabels.contains label then some (.utf16 true)
  else if littleEndianLabels.contains label then some (.utf16 false)
  else if refusedLabels.contains label then some .refused
  else if label == "x-user-defined" then some .userDefined
  else
    ((CodePage.all.find? fun p => p.labels.contains label).map .codePage).or
      ((Multibyte.all.find? fun m => m.labels.contains label).map .multibyte)

/-- The encoding that the first bytes of a text mark, and the text behind them. -/
def marked? : List UInt8 → Option (Encoding × List UInt8)
  | 0xEF :: 0xBB :: 0xBF :: rest => some (.utf8, rest)
  | 0xFE :: 0xFF :: rest => some (.utf16 true, rest)
  | 0xFF :: 0xFE :: rest => some (.utf16 false, rest)
  | _ => none

def decodeUnmarked (e : Encoding) (bs : List UInt8) : List Char :=
  match e with
  | .utf8 => decodeLossy bs
  | .utf16 bigEndian => Utf16.decode bigEndian bs
  | .codePage p => p.decode bs
  | .multibyte m => m.decode bs
  | .userDefined => bs.map fun b => Char.ofNat (if b < 0x80 then b.toNat else 0xF700 + b.toNat)
  | .refused => if bs.isEmpty then [] else [replacement]

/-- The text of bytes. A mark at its beginning tells the encoding and is no part of it. -/
def decode (e : Encoding) (bs : List UInt8) : List Char :=
  match marked? bs with
  | some (e, bs) => e.decodeUnmarked bs
  | none => e.decodeUnmarked bs

end Encoding

end Storefront.Text
