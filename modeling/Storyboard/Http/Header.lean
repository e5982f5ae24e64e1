import Storyboard.Assoc
import Storyboard.Json.Elements
import Storyboard.Json.Writer

/-!
# Headers

Names are told apart without regard to case, and the values given for one name make
up one value. Both are ASCII.
-/
namespace Storyboard.Http

/-- Why a header cannot be sent or read. -/
inductive HeaderFault where
  /-- A run of other characters, from `position` on. -/
  | notAscii (first : Char) (position length : Nat)
  | notText (kind : String)
  deriving DecidableEq, Repr

/-- A character by its number, as messages give it. -/
def charCode (c : Char) : String :=
  let n := c.toNat
  String.ofList <|
    if n < 0x100 then '\\' :: 'x' :: Json.hexDigits 2 n
    else if n < 0x10000 then '\\' :: 'u' :: Json.hexDigits 4 n
    else '\\' :: 'U' :: Json.hexDigits 8 n

def HeaderFault.message : HeaderFault → String
  | .notAscii first position length =>
    "'ascii' codec can't encode " ++
      (if length == 1 then
        "character '" ++ charCode first ++ "' in position " ++ toString position
      else "characters in position " ++ toString position ++ "-" ++
        toString (position + length - 1)) ++
      ": ordinal not in range(128)"
  | .notText kind => "Header value must be str or bytes, not <class '" ++ kind ++ "'>"

/-- Refuses a text beyond ASCII; the fault covers the first run of such characters. -/
def checkAscii (text : String) : Except HeaderFault Unit :=
  let ascii (c : Char) : Bool := c.toNat < 128
  let before := text.toList.takeWhile ascii
  match text.toList.dropWhile ascii with
  | [] => .ok ()
  | c :: rest => .error (.notAscii c before.length ((c :: rest).takeWhile (!ascii ·)).length)

/-- The name under which headers are kept. -/
def headerKey (name : String) : String := String.ofList (name.toList.map Char.toLower)

/-- Reads headers in turn; the values of one name are joined. -/
def readHeaders (found : Assoc String) : List (String × Json) → Except HeaderFault (Assoc String)
  | [] => .ok found
  | (name, value) :: rest => do
    checkAscii name
    let value ← match value with
      | .str s => .ok s
      | v => .error (.notText v.kindName)
    checkAscii value
    let key := headerKey name
    let value := match Assoc.get? found key with
      | some earlier => earlier ++ ", " ++ value
      | none => value
    readHeaders (Assoc.put found key value) rest

end Storyboard.Http
