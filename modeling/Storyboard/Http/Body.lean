import Storyboard.Compression.Envelope
import Storyboard.Http.Address
import Storyboard.Http.MediaType
import Storyboard.Json.Reader

/-!
# Bodies of replies

A body is unpacked by the codings its headers name. It is then JSON in any of the
Unicode encodings, which its first bytes tell apart, or text in the character set of
its media type.
-/
namespace Storyboard.Http

/-- A coding a body was packed with. -/
inductive Coding where
  | gzip
  | deflate
  deriving DecidableEq, Repr

/-- The codings of a header, in the order they were applied. Others are passed over. -/
def codings (header : String) : List Coding :=
  (pieces ',' header.toList).filterMap fun name =>
    match String.ofList ((Text.strip name).map Char.toLower) with
    | "gzip" => some .gzip
    | "deflate" => some .deflate
    | _ => none

/-- Undoes a coding. Data of the second one may lack its envelope. -/
def Coding.undo : Coding → List Nat → Except Compression.Fault (List Nat)
  | .gzip, bytes => Compression.largeEnvelope bytes
  | .deflate, bytes =>
    match Compression.smallEnvelope bytes with
    | .ok out => .ok out
    | .error _ => Compression.bare bytes

/-- Undoes codings, the last one first. -/
def unpack (coded : List Coding) (body : List Nat) : Except Compression.Fault (List Nat) :=
  coded.reverse.foldlM (fun bytes coding => coding.undo bytes) body

open Charset (decodeBy fourByteUnits fourByteMark? strictText? twoByteUnits twoByteMark?) in
/-- The text of a body that is JSON. Without a mark, the zero bytes among the first four
show how wide the units are, since JSON begins with ASCII. -/
def jsonText? (body : List Nat) : Option String :=
  let two (order : Charset.ByteOrder) := strictText? (decodeBy (twoByteUnits order) body)
  let four (order : Charset.ByteOrder) := strictText? (decodeBy (fourByteUnits order) body)
  let plain := (Text.Utf8.decode body).toOption
  match fourByteMark? body, twoByteMark? body, body with
  | some (order, rest), _, _ => strictText? (decodeBy (fourByteUnits order) rest)
  | none, some (order, rest), _ => strictText? (decodeBy (twoByteUnits order) rest)
  | none, none, 0xEF :: 0xBB :: 0xBF :: rest => (Text.Utf8.decode rest).toOption
  | none, none, a :: b :: c :: d :: _ =>
    if a == 0 then if b == 0 then four .big else two .big
    else if b == 0 then if c == 0 && d == 0 then four .little else two .little
    else plain
  | none, none, [a, b] => if a == 0 then two .big else if b == 0 then two .little else plain
  | _, _, _ => plain

/-- The bounds for the JSON of a reply. -/
def replyBounds : Json.Bounds := ⟨980, 4300⟩

/-- The text of a body, by its media type. -/
def bodyText (mediaType : Option String) (body : List Nat) : Except CharsetFault String :=
  let charset := ((mediaType.bind charsetName?).bind Charset.ofName?).getD .utf8
  (charset.decode body).map Charset.lossyText

end Storyboard.Http
