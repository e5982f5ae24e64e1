import Storyboard.Notice
import Storyboard.Text.LetterCase

/-!
# Filters on records

A filter gives a condition for each field: a plain value, which the field's text
must equal, or operators with operands, all of which must accept. Texts are
compared as displayed; two numbers are compared as numbers. An operator nobody
knows is reported and accepts.
-/
namespace Storyboard

/-- A record: field names and values in order. -/
abbrev Record := Assoc Json

namespace Filter

inductive Operator where
  | isNull
  | hasKey
  | eq
  | ne
  | contains
  | startsWith
  | endsWith
  | gt
  | gte
  | lt
  | lte
  | oneOf
  deriving DecidableEq, Repr

def Operator.ofName? : String → Option Operator
  | "is_null" => some .isNull
  | "has_key" => some .hasKey
  | "eq" => some .eq
  | "ne" => some .ne
  | "contains" => some .contains
  | "starts_with" => some .startsWith
  | "ends_with" => some .endsWith
  | "gt" => some .gt
  | "gte" => some .gte
  | "lt" => some .lt
  | "lte" => some .lte
  | "in" => some .oneOf
  | "in_" => some .oneOf
  | _ => none

/-- The order of two values: as numbers when both are numbers (with no order when
one is undefined, which counts as equal), as texts otherwise. -/
def order (a b : Json) : Ordering :=
  match a.number?, b.number? with
  | some x, some y => (x.compare? y).getD .eq
  | _, _ => compare a.display b.display

def sameText (a b : Json) : Bool := a.display == b.display

def lowered (v : Json) : List Char := (Text.lower v.display).toList

/-- Whether `part` stands somewhere in `whole`. -/
def occursIn (part : List Char) : List Char → Bool
  | [] => part.isEmpty
  | c :: rest => part.isPrefixOf (c :: rest) || occursIn part rest

/-- What an operator says of a field that has a value. -/
def Operator.acceptsValue (op : Operator) (value operand : Json) : Bool :=
  match op with
  | .isNull => !operand.truthy
  | .hasKey => operand.truthy
  | .eq => sameText value operand
  | .ne => !sameText value operand
  | .contains => occursIn (lowered operand) (lowered value)
  | .startsWith => (lowered operand).isPrefixOf (lowered value)
  | .endsWith => (lowered operand).reverse.isPrefixOf (lowered value).reverse
  | .gt => order value operand == .gt
  | .gte => order value operand != .lt
  | .lt => order value operand == .lt
  | .lte => order value operand != .gt
  | .oneOf =>
    match operand with
    | .arr items => items.any (sameText value)
    | _ => false

/-- What an operator says of a field, which may be missing. Without a value only the
two tests for absence can accept. -/
def Operator.accepts (op : Operator) (found : Option Json) (operand : Json) : Bool :=
  let value := found.getD .null
  match op with
  | .isNull => value.isNull == operand.truthy
  | .hasKey => found.isSome == operand.truthy
  | op => if value.isNull then false else op.acceptsValue value operand

/-- A verdict with the notices given on the way to it. -/
structure Verdict where
  accepted : Bool
  notices : List Notice

/-- The verdicts of a list in turn, up to the first refusal. -/
def Verdict.all : List Verdict → Verdict
  | [] => ⟨true, []⟩
  | v :: rest =>
    if v.accepted then
      let more := all rest
      ⟨more.accepted, v.notices ++ more.notices⟩
    else v

/-- One named operator with its operand on a field. -/
def test (record : Record) (field : String) (name : String) (operand : Json) : Verdict :=
  let found := Assoc.get? record field
  match Operator.ofName? name with
  | some op => ⟨op.accepts found operand, []⟩
  | none =>
    if (found.getD .null).isNull then ⟨false, []⟩
    else ⟨true, [.unknownOperator name field]⟩

/-- The condition on one field. -/
def condition (record : Record) (field : String) : Json → Verdict
  | .obj tests => .all (tests.map fun (name, operand) => test record field name operand)
  | expected =>
    match Assoc.get? record field with
    | some value => ⟨sameText value expected, []⟩
    | none => ⟨false, []⟩

/-- The verdict of a whole filter on a record. -/
def verdict (filter : Assoc Json) (record : Record) : Verdict :=
  .all (filter.map fun (field, expected) => condition record field expected)

end Filter

end Storyboard
