import Storyboard.Charset.Chart
import Storyboard.Charset.Escaped
import Storyboard.Charset.Name
import Storyboard.Charset.SevenBit
import Storyboard.Charset.Switched
import Storyboard.Text.Utf8

/-!
# Character sets

What a body of bytes is as text, by the name of its character set. Bytes that stand for
nothing become replacement characters. Some names are those of codings that do not lead
from bytes to text, and cannot be used.
-/
namespace Storyboard

/-- Why a character set cannot be used for some bytes. -/
inductive CharsetFault where
  /-- A mark for the order of bytes is missing; units have so many bits. -/
  | noMark (bits : Nat)
  /-- The coding leads from bytes to bytes. -/
  | notText
  /-- The coding leads from text to text. -/
  | fromText
  | undefined
  /-- The coding takes no replacement characters. -/
  | strictOnly
  deriving DecidableEq, Repr

def CharsetFault.message : CharsetFault → String
  | .noMark bits => "UTF-" ++ toString bits ++ " stream does not start with BOM"
  | .notText => ""
  | .fromText =>
    "descriptor 'translate' for 'str' objects doesn't apply to a 'bytes' object"
  | .undefined => "undefined encoding"
  | .strictOnly => "Unsupported error handling replace"

inductive Charset where
  | ascii
  | chart (chart : Charset.Chart)
  | sevenBit
  /-- Text with escapes, by number only or of all kinds. -/
  | plainEscaped
  | fullEscaped
  | utf8
  /-- UTF-8 whose mark at the beginning is dropped. -/
  | markedUtf8
  /-- Units of two or four bytes; without an order, the bytes give it. -/
  | twoByte (order : Option Charset.ByteOrder)
  | fourByte (order : Option Charset.ByteOrder)
  /-- A step tells characters from faults. -/
  | eucJapanese
  | shiftJapanese
  | windowsJapanese
  | chinese
  | extendedChinese
  | fullChinese
  | tildeChinese
  | traditional
  | windowsTraditional
  | eucKorean
  | windowsKorean
  | switched (way : Charset.Switching)
  | unusable (fault : CharsetFault)

namespace Charset

/-- Switching between the Japanese tables and some more. -/
def japaneseSwitching (more : List Table) (singles : Bool) : Charset :=
  .switched ⟨[.japanese, .romanJapanese] ++ more, false, singles, true⟩

/-- The character sets that are more than a chart. Revisions of a table are read by the
table they revise; the characters they add are faults. -/
def special? : String → Option Charset
  | "ascii" => some .ascii
  | "latin_1" => some (.chart ⟨256, ""⟩)
  | "charmap" => some (.chart ⟨256, ""⟩)
  | "utf_7" => some .sevenBit
  | "raw_unicode_escape" => some .plainEscaped
  | "unicode_escape" => some .fullEscaped
  | "utf_8" => some .utf8
  | "utf_8_sig" => some .markedUtf8
  | "utf_16" => some (.twoByte none)
  | "utf_16_le" => some (.twoByte (some .little))
  | "utf_16_be" => some (.twoByte (some .big))
  | "utf_32" => some (.fourByte none)
  | "utf_32_le" => some (.fourByte (some .little))
  | "utf_32_be" => some (.fourByte (some .big))
  | "euc_jp" => some .eucJapanese
  | "euc_jis_2004" => some .eucJapanese
  | "euc_jisx0213" => some .eucJapanese
  | "shift_jis" => some .shiftJapanese
  | "shift_jis_2004" => some .shiftJapanese
  | "shift_jisx0213" => some .shiftJapanese
  | "cp932" => some .windowsJapanese
  | "iso2022_jp" => some (japaneseSwitching [] false)
  | "iso2022_jp_1" => some (japaneseSwitching [.supplement] false)
  | "iso2022_jp_2" =>
    some (japaneseSwitching [.supplement, .korean, .chinese, .western, .greek] true)
  | "iso2022_jp_2004" => some (japaneseSwitching [] false)
  | "iso2022_jp_3" => some (japaneseSwitching [] false)
  | "iso2022_jp_ext" => some (japaneseSwitching [.supplement, .narrowJapanese] false)
  | "iso2022_kr" => some (.switched ⟨[.korean], true, false, false⟩)
  | "gb2312" => some .chinese
  | "gbk" => some .extendedChinese
  | "gb18030" => some .fullChinese
  | "hz" => some .tildeChinese
  | "big5" => some .traditional
  | "big5hkscs" => some .traditional
  | "cp950" => some .windowsTraditional
  | "euc_kr" => some .eucKorean
  | "cp949" => some .windowsKorean
  | "base64_codec" => some (.unusable .notText)
  | "bz2_codec" => some (.unusable .notText)
  | "hex_codec" => some (.unusable .notText)
  | "quopri_codec" => some (.unusable .notText)
  | "uu_codec" => some (.unusable .notText)
  | "zlib_codec" => some (.unusable .notText)
  | "rot_13" => some (.unusable .fromText)
  | "undefined" => some (.unusable .undefined)
  | "idna" => some (.unusable .strictOnly)
  | _ => none

/-- The character set of a name. -/
def ofName? (name : String) : Option Charset := do
  let known ← knownName? name
  (special? known).orElse fun _ => (chart? known).map .chart

def asciiStep : List Nat → Step
  | [] => .fault 0
  | a :: _ => if a < 0x80 then .char a 1 else .fault 1

def chartStep (table : Chart) : List Nat → Step
  | [] => .fault 0
  | a :: _ => .ofTable (table.char? a) 1 1

/-- The bytes of the mark of UTF-8. -/
def utf8Mark : List Nat := [0xEF, 0xBB, 0xBF]

def utf8Step : List Nat → Step
  | [] => .fault 0
  | b :: rest =>
    match Text.Utf8.sequence b rest with
    | .ok (code, after) => .char code (rest.length + 1 - after.length)
    | .error (length, _) => .fault length

/-- UTF-8 without its mark. A mark that breaks off is dropped as well. -/
def decodeMarked (bytes : List Nat) : List (Option Char) :=
  if utf8Mark.isPrefixOf bytes then decodeBy utf8Step (bytes.drop 3)
  else if bytes.isPrefixOf utf8Mark then []
  else decodeBy utf8Step bytes

/-- Text of wide units without a known order: a mark must give it, unless the bytes are
less than a unit. -/
def markedUnits (size : Nat) (mark? : List Nat → Option (ByteOrder × List Nat))
    (step : ByteOrder → List Nat → Step) (bytes : List Nat) :
    Except CharsetFault (List (Option Char)) :=
  match mark? bytes with
  | some (order, rest) => .ok (decodeBy (step order) rest)
  | none =>
    if size ≤ bytes.length then .error (.noMark (8 * size))
    else .ok (decodeBy (step .little) bytes)

/-- Decodes some bytes; none stands for a fault. -/
def decode (charset : Charset) (bytes : List Nat) : Except CharsetFault (List (Option Char)) :=
  match charset with
  | .ascii => steps asciiStep
  | .chart table => steps (chartStep table)
  | .sevenBit => .ok (decodeSevenBit bytes)
  | .plainEscaped => steps plainEscapedStep
  | .fullEscaped => steps fullEscapedStep
  | .utf8 => steps utf8Step
  | .markedUtf8 => .ok (decodeMarked bytes)
  | .twoByte (some order) => steps (twoByteUnits order)
  | .twoByte none => markedUnits 2 twoByteMark? twoByteUnits bytes
  | .fourByte (some order) => steps (fourByteUnits order)
  | .fourByte none => markedUnits 4 fourByteMark? fourByteUnits bytes
  | .eucJapanese => steps eucJapaneseStep
  | .shiftJapanese => steps shiftJapaneseStep
  | .windowsJapanese => steps windowsJapaneseStep
  | .chinese => steps (pairStep chinesePair?)
  | .extendedChinese => steps (pairStep extendedChinese?)
  | .fullChinese => steps fullChineseStep
  | .tildeChinese => .ok (decodeFrom tildeChineseStep false [] bytes.length bytes).1
  | .traditional => steps (pairStep traditional?)
  | .windowsTraditional => steps (pairStep windowsTraditional?)
  | .eucKorean => steps eucKoreanStep
  | .windowsKorean => steps (pairStep windowsKorean?)
  | .switched way => .ok (decodeFrom (switchedStep way) .start [] bytes.length bytes).1
  | .unusable fault => .error fault
where
  steps (step : List Nat → Step) : Except CharsetFault (List (Option Char)) :=
    .ok (decodeBy step bytes)

end Charset

end Storyboard
