import Storyboard.Json.Display
import Storyboard.Text.Blank

/-!
# The order of records

Records are sorted by one field: numbers first by value, then everything else
that has a value by its text, then missing values. Sorting keeps records with
equal keys in their stored order, whichever direction is asked for.

A list is sorted from the run it begins with, and every later element is put into
its place by halving. Where `less` orders the elements, this is the stable sort; an
element that is not ordered with the others, such as a number that is undefined,
stays where the search ends.
-/
namespace Storyboard

/-- What a value is sorted by. -/
inductive SortKey where
  | number (q : Quantity)
  | text (s : String)
  | nothing
  deriving DecidableEq, Repr

namespace SortKey

def ofValue : Json → SortKey
  | .null => .nothing
  | v =>
    match v.number? with
    | some q => .number q
    | none => .text v.display

def less : SortKey → SortKey → Bool
  | .number a, .number b => a.less b
  | .text a, .text b => decide (a < b)
  | .number _, _ => true
  | .text _, .nothing => true
  | _, _ => false

end SortKey

section Sorting

variable {α : Type} (less : α → α → Bool)

/-- The elements that follow without falling, and the others. -/
def risingFrom (last : α) : List α → List α × List α
  | [] => ([], [])
  | x :: rest =>
    if less x last then ([], x :: rest)
    else
      let (run, others) := risingFrom x rest
      (x :: run, others)

/-- The elements that follow by falling, and the others. -/
def fallingFrom (last : α) : List α → List α × List α
  | [] => ([], [])
  | x :: rest =>
    if less x last then
      let (run, others) := fallingFrom x rest
      (x :: run, others)
    else ([], x :: rest)

/-- The run a list begins with, in rising order, and the others. -/
def firstRun : List α → List α × List α
  | [] => ([], [])
  | [x] => ([x], [])
  | x :: y :: rest =>
    if less y x then
      let (run, others) := fallingFrom less y rest
      ((x :: y :: run).reverse, others)
    else
      let (run, others) := risingFrom less y rest
      (x :: y :: run, others)

/-- The place of an element among sorted ones: between `low` and `high`, behind every
element that it is not less than. -/
def placeBetween (sorted : List α) (x : α) (low high : Nat) : Nat :=
  if _h : low < high then
    let middle := low + (high - low) / 2
    match sorted[middle]? with
    | some y =>
      if less x y then placeBetween sorted x low middle
      else placeBetween sorted x (middle + 1) high
    | none => low
  else low
termination_by high - low

/-- Puts an element into its place. -/
def insertByHalves (sorted : List α) (x : α) : List α :=
  let place := placeBetween less sorted x 0 sorted.length
  sorted.take place ++ x :: sorted.drop place

def sortByRuns (l : List α) : List α :=
  let (run, others) := firstRun less l
  others.foldl (insertByHalves less) run

/-- Sorts the other way round; equal elements keep their order all the same. -/
def sortFalling (l : List α) : List α := (sortByRuns less l.reverse).reverse

end Sorting

/-- A field to sort by, and whether the order is reversed. -/
structure SortOrder where
  field : String
  descending : Bool
  deriving DecidableEq, Repr

namespace SortOrder

/-- Reads a field name with leading dashes; the empty text asks for no order. -/
def ofText? (s : String) : Option SortOrder :=
  match s.toList with
  | [] => none
  | c :: rest =>
    let field := Text.strip ((c :: rest).dropWhile (· == '-'))
    some ⟨String.ofList field, c == '-'⟩

def apply (order : SortOrder) (records : List (Assoc Json)) : List (Assoc Json) :=
  let keyed := records.map fun r =>
    (SortKey.ofValue ((Assoc.get? r order.field).getD .null), r)
  let less (a b : SortKey × Assoc Json) : Bool := a.1.less b.1
  let sorted := if order.descending then sortFalling less keyed else sortByRuns less keyed
  sorted.map (·.2)

end SortOrder

end Storyboard
