import Storyboard.Json.Display
import Storyboard.Json.Reader
import Storyboard.Text.Utf8

/-!
# Issues

A problem found in a document, located by the path of keys and indexes that
leads to it. Reading collects every issue of a document: `Check` is the result
of a reader, and two readers side by side report the issues of both.
-/
namespace Storyboard

inductive Problem where
  | missing
  | notText
  | notWhole
  | notNumber
  | notFlag
  | unclearFlag
  | notTable
  | notList
  | fractional
  | notFinite
  | unparsableWhole
  | unparsableNumber
  | wholeTooLarge
  | belowOne
  | notOneOf (options : List String)
  | notInstance (kind : String)
  | notTagged
  | tagMissing
  | tagUnknown (tag : String) (known : List String)
  | tooDeep
  | undeclaredScreen (name : String)
  | undeclaredTable (name : String)
  | undeclaredToken (name : String)
  | notUtf8 (fault : Text.Utf8.Fault)
  | notText8
  | tooLarge (size : Nat) (limit : Int)
  | malformed (fault : Json.Fault) (place : Json.Place)
  | nestedTooDeeply
  deriving DecidableEq, Repr

namespace Problem

def quoted (name : String) : String := "'" ++ name ++ "'"

/-- Quoted names in an enumeration whose last link is `or`. -/
def alternatives : List String → String
  | [] => ""
  | [a] => quoted a
  | [a, b] => quoted a ++ " or " ++ quoted b
  | a :: rest => quoted a ++ ", " ++ alternatives rest

def utf8Message (f : Text.Utf8.Fault) : String :=
  let byte := "0x" ++ String.ofList (Json.hexDigits 2 f.first)
  let place :=
    if f.length == 1 then "byte " ++ byte ++ " in position " ++ toString f.offset
    else "bytes in position " ++ toString f.offset ++ "-" ++ toString (f.offset + f.length - 1)
  "'utf-8' codec can't decode " ++ place ++ ": " ++ f.reason.message

def message : Problem → String
  | missing => "Field required"
  | notText => "Input should be a valid string"
  | notWhole => "Input should be a valid integer"
  | notNumber => "Input should be a valid number"
  | notFlag => "Input should be a valid boolean"
  | unclearFlag => "Input should be a valid boolean, unable to interpret input"
  | notTable => "Input should be a valid dictionary"
  | notList => "Input should be a valid list"
  | fractional => "Input should be a valid integer, got a number with a fractional part"
  | notFinite => "Input should be a finite number"
  | unparsableWhole =>
    "Input should be a valid integer, unable to parse string as an integer"
  | unparsableNumber => "Input should be a valid number, unable to parse string as a number"
  | wholeTooLarge => "Unable to parse input string as an integer, exceeded maximum size"
  | belowOne => "Input should be greater than or equal to 1"
  | notOneOf options => "Input should be " ++ alternatives options
  | notInstance kind => "Input should be a valid dictionary or instance of " ++ kind
  | notTagged => "Input should be a valid dictionary or object to extract fields from"
  | tagMissing => "Unable to extract tag using discriminator 'type'"
  | tagUnknown tag known =>
    "Input tag '" ++ tag ++ "' found using 'type' does not match any of the expected tags: " ++
      String.intercalate ", " (known.map quoted)
  | tooDeep => "Recursion error - maximum validation depth exceeded"
  | undeclaredScreen name => "Screen '" ++ name ++ "' does not exist"
  | undeclaredTable name => "Table '" ++ name ++ "' is not declared in app.databaseSchema"
  | undeclaredToken name => "Design token '" ++ name ++ "' is not defined in app.designTokens"
  | notUtf8 fault => "Definition is not UTF-8: " ++ utf8Message fault
  | notText8 => "Definition is not valid UTF-8 text: surrogates not allowed"
  | tooLarge size limit =>
    "Definition is " ++ toString size ++ " bytes; the limit is " ++ toString limit
  | malformed fault place =>
    "Invalid JSON: " ++ fault.message ++ " (line " ++ toString place.line ++ ", column " ++
      toString place.column ++ ")"
  | nestedTooDeeply => "Definition is nested too deeply"

end Problem

/-- A problem and the path to it. -/
structure Issue where
  path : List String
  problem : Problem
  deriving DecidableEq, Repr

namespace Issue

/-- A problem of the document as a whole. -/
def atRoot (problem : Problem) : Issue := ⟨[], problem⟩

def pathText (issue : Issue) : String := String.intercalate "." issue.path

/-- The issue on one line: its path, if it has one, and its message. -/
def text (issue : Issue) : String :=
  if issue.pathText == "" then issue.problem.message
  else issue.pathText ++ ": " ++ issue.problem.message

end Issue

/-- A value read, or every issue found on the way. -/
inductive Check (α : Type) where
  | ok (value : α)
  | bad (issues : List Issue)

namespace Check

variable {α β : Type}

def fail (problem : Problem) : Check α := .bad [.atRoot problem]

def map (f : α → β) : Check α → Check β
  | .ok a => .ok (f a)
  | .bad issues => .bad issues

/-- Both results, or the issues of both, those of the first in front. -/
def both (f : Check (α → β)) (x : Check α) : Check β :=
  match f, x with
  | .ok f, .ok a => .ok (f a)
  | .ok _, .bad e => .bad e
  | .bad e, .ok _ => .bad e
  | .bad e, .bad e' => .bad (e ++ e')

instance : Functor Check where
  map f := Check.map f

instance : Applicative Check where
  pure := .ok
  seq f x := both f (x ())

/-- Puts a key in front of the path of every issue. -/
def under (key : String) : Check α → Check α
  | .ok a => .ok a
  | .bad issues => .bad (issues.map fun i => ⟨key :: i.path, i.problem⟩)

def toOption : Check α → Option α
  | .ok a => some a
  | .bad _ => none

end Check

end Storyboard
