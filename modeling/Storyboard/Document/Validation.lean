import Storyboard.Document.Reference

/-!
# Validation

Turns the text of a document into a `Definition` with warnings, or into errors.
The text is decoded and read as JSON first, then the document is read, and what
was read is searched for dangling references, which are warnings only.

`Breakdown` holds what validation does not report as an error of the document:
an integer with too many digits, a container where a tag is looked up, and a
screen that is nested too deeply to be searched. A text with one half of a
surrogate pair is not read at all.
-/
namespace Storyboard

/-- The text of a document as a host has it. -/
inductive Source where
  | text (s : String)
  | bytes (bs : List Nat)
  | codePoints (points : List Nat)

/-- What is read, or the problem with it. -/
abbrev Sourced (α : Type) := Except Problem α

namespace Source

/-- Code points reserved for pairs of code units stand for no character. -/
def isSurrogate (point : Nat) : Bool := 0xD800 ≤ point && point < 0xE000

/-- The characters of a source. -/
def characters : Source → Sourced String
  | .text s => .ok s
  | .bytes bs => (Text.Utf8.decode bs).mapError .notUtf8
  | .codePoints points =>
    if points.any isSurrogate then .error .notText8
    else .ok (String.ofList (points.map Char.ofNat))

end Source

/-- Levels of nesting and digits of a number that a text may have. -/
def textBounds : Json.Bounds := ⟨980, 4300⟩

inductive Breakdown where
  | search (fault : SearchFault)
  | tooManyDigits (count : Nat)
  | unpaired
  deriving DecidableEq, Repr

def tooDeepMessage : String := "Maximum serialization depth exceeded"

def tooManyDigitsMessage (count : Nat) : String :=
  "Exceeds the limit (4300 digits) for integer string conversion: value has " ++ toString count ++
    " digits; use sys.set_int_max_str_digits() to increase the limit"

def unpairedMessage : String := "an escape stands for one half of a surrogate pair"

def Breakdown.message : Breakdown → String
  | .search (.tag fault) => fault.message
  | .search .tooDeep => tooDeepMessage
  | .tooManyDigits count => tooManyDigitsMessage count
  | .unpaired => unpairedMessage

/-- The outcome of a validation: a definition with warnings, or errors. -/
structure Validation where
  definition : Option Definition
  errors : List Issue
  warnings : List Issue
  notices : List Notice

namespace Validation

def rejected (issues : List Issue) : Validation := ⟨none, issues, [], []⟩

def succeeded (v : Validation) : Bool := v.definition.isSome && v.errors.isEmpty

/-- Validates a document that was read as JSON. -/
def ofJson (data : Json) : Except Breakdown Validation :=
  match Read.definition data with
  | .bad issues => .ok (rejected issues)
  | .ok definition =>
    match definition.danglingReferences with
    | .error fault => .error (.search fault)
    | .ok dangling =>
      .ok ⟨some definition, [], dangling.map Reference.issue, danglingNotices dangling⟩

/-- Reads a source as JSON, within a limit on its size in bytes. -/
def readSource (limit : Int) (source : Source) : Except Breakdown (Sourced Json) :=
  match source.characters with
  | .error problem => .ok (.error problem)
  | .ok s =>
    if limit < s.utf8ByteSize then .ok (.error (.tooLarge s.utf8ByteSize limit))
    else match Json.read textBounds s with
      | .ok data => .ok (.ok data)
      | .error (.malformed fault rest) => .ok (.error (.malformed fault (Json.placeOf s rest)))
      | .error .tooDeep => .ok (.error .nestedTooDeeply)
      | .error (.tooManyDigits count) => .error (.tooManyDigits count)
      | .error .unpaired => .error .unpaired

/-- Validates the text of a document. -/
def ofSource (limit : Int) (source : Source) : Except Breakdown Validation :=
  match readSource limit source with
  | .error breakdown => .error breakdown
  | .ok (.error problem) => .ok (rejected [.atRoot problem])
  | .ok (.ok data) => ofJson data

end Validation

end Storyboard
