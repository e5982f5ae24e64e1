import Storyboard.Schema.Issue

/-!
# Reading fields

An object of a known kind has declared fields; every other key is extra and kept
as it is. A field may be written under its document key or under its plain name;
the document key wins, and a plain name that lost stays among the extra keys. A
field that may be left out remembers whether it was, and whether it was `null`.
-/
namespace Storyboard

/-- The two spellings of a field. -/
structure Key where
  external : String
  name : String
  deriving DecidableEq, Repr

namespace Key

/-- A field with one spelling. -/
def plain (name : String) : Key := ⟨name, name⟩

/-- The spelling an object uses, if it has the field. -/
def used? (key : Key) (object : Assoc Json) : Option String :=
  if Assoc.has object key.external then some key.external
  else if Assoc.has object key.name then some key.name
  else none

end Key

/-- The keys of an object that no declared field uses, in order. -/
def extraFields (keys : List Key) (object : Assoc Json) : Assoc Json :=
  let used := keys.filterMap fun key => key.used? object
  object.filter fun p => !used.contains p.1

/-- A field that may be left out or be `null`. -/
inductive Slot (α : Type) where
  | absent
  | null
  | value (a : α)
  deriving Repr

namespace Slot

variable {α : Type}

def toOption : Slot α → Option α
  | .value a => some a
  | _ => none

/-- A field that is given, if only as `null`. -/
def ofOption : Option α → Slot α
  | some a => .value a
  | none => .null

def isGiven : Slot α → Bool
  | .absent => false
  | _ => true

/-- The dumped form of a field: `null` when there is no value. -/
def dump (f : α → Json) : Slot α → Json
  | .value a => f a
  | _ => .null

end Slot

namespace Read

variable {α : Type}

/-- The object a value of a kind is read from. -/
def object (kind : String) : Json → Check (Assoc Json)
  | .obj fields => .ok fields
  | _ => .fail (.notInstance kind)

/-- Reads the fields of an object of a kind. -/
def record (kind : String) (fields : Assoc Json → Check α) (v : Json) : Check α :=
  match object kind v with
  | .bad e => .bad e
  | .ok o => fields o

/-- A field that must be there. -/
def required (object : Assoc Json) (key : Key) (read : Json → Check α) : Check α :=
  match key.used? object with
  | none => Check.under key.external (.fail .missing)
  | some used => Check.under used (read ((Assoc.get? object used).getD .null))

/-- A field that may be left out, of a kind that may be `null`. -/
def slot (object : Assoc Json) (key : Key) (read : Json → Check α) : Check (Slot α) :=
  match key.used? object with
  | none => .ok .absent
  | some used =>
    match (Assoc.get? object used).getD .null with
    | .null => .ok .null
    | v => Check.under used ((read v).map .value)

/-- A field that may be left out and otherwise is read. -/
def optional (object : Assoc Json) (key : Key) (read : Json → Check α) : Check (Option α) :=
  match key.used? object with
  | none => .ok none
  | some used => Check.under used ((read ((Assoc.get? object used).getD .null)).map some)

def text : Json → Check String
  | .str s => .ok s
  | _ => .fail .notText

def anything (v : Json) : Check Json := .ok v

/-- The words for true and false, in any case of their ASCII letters. -/
def flagWord? (s : String) : Option Bool :=
  let word := String.ofList (s.toList.map Char.toLower)
  if ["0", "off", "f", "false", "n", "no"].contains word then some false
  else if ["1", "on", "t", "true", "y", "yes"].contains word then some true
  else none

/-- The least number of a signed 64-bit word. -/
def leastWord : Int := -9223372036854775808

/-- Whether a number fits into a signed 64-bit word. -/
def withinWord (n : Int) : Bool := leastWord ≤ n && n < -leastWord

/-- A truth value, or a number or word that stands for one. -/
def flag : Json → Check Bool
  | .bool b => .ok b
  | .str s =>
    match flagWord? s with
    | some b => .ok b
    | none => .fail .unclearFlag
  | .int n =>
    if n == 0 then .ok false
    else if n == 1 then .ok true
    else if withinWord n then .fail .unclearFlag else .fail .notFlag
  | .float x =>
    match x.toInt? with
    | none => .fail .notFlag
    | some n =>
      if n == 0 then .ok false
      else if n == 1 then .ok true
      else if withinWord n && n != leastWord then .fail .unclearFlag else .fail .notFlag
  | _ => .fail .notFlag

/-- A whole number, where truth values and integral doubles count as whole. -/
def whole : Json → Check Int
  | .int n => .ok n
  | .bool b => .ok (if b then 1 else 0)
  | .float x =>
    if !x.isFinite then .fail .notFinite
    else match x.toInt? with
      | none => .fail .fractional
      | some n => if withinWord n && n != leastWord then .ok n else .fail .wholeTooLarge
  | _ => .fail .notWhole

/-- One of a list of named values. -/
def choice (all : List α) (name : α → String) (v : Json) : Check α :=
  match v.str?.bind fun s => all.find? fun a => name a == s with
  | some a => .ok a
  | none => .fail (.notOneOf (all.map name))

/-- Reads the elements of a list, each under its index. -/
def items (read : Json → Check α) (index : Nat) : List Json → Check (List α)
  | [] => .ok []
  | v :: rest =>
    List.cons <$> Check.under (toString index) (read v) <*> items read (index + 1) rest

def list (read : Json → Check α) : Json → Check (List α)
  | .arr vs => items read 0 vs
  | _ => .fail .notList

/-- Reads the values of a table, each under its key. -/
def entries (read : Json → Check α) : List (String × Json) → Check (Assoc α)
  | [] => .ok []
  | (k, v) :: rest =>
    List.cons <$> ((k, ·) <$> Check.under k (read v)) <*> entries read rest

def table (read : Json → Check α) : Json → Check (Assoc α)
  | .obj fields => entries read fields
  | _ => .fail .notTable

end Read

/-- How a document is dumped: under which spellings, with or without the fields that
were left out, with or without numbers that JSON text cannot hold. -/
structure Mode where
  documentKeys : Bool
  defaults : Bool
  finite : Bool
  deriving DecidableEq, Repr

namespace Mode

/-- As written in the document. -/
def asWritten : Mode := ⟨true, false, true⟩

/-- Everything, under plain names. -/
def full : Mode := ⟨false, true, false⟩

/-- Everything, under document keys. -/
def complete : Mode := ⟨true, true, true⟩

/-- A value without a declared kind. -/
def any (mode : Mode) (v : Json) : Json := if mode.finite then v.finitize else v

def anyFields (mode : Mode) (fields : Assoc Json) : Assoc Json :=
  if mode.finite then Json.finitizeFields fields else fields

end Mode

/-- A declared field on its way out: whether it was given, and its value. -/
structure Entry where
  key : Key
  given : Bool
  value : Json

namespace Entry

def always (key : Key) (value : Json) : Entry := ⟨key, true, value⟩

def ofSlot {α : Type} (key : Key) (dump : α → Json) (slot : Slot α) : Entry :=
  ⟨key, slot.isGiven, slot.dump dump⟩

def ofOption {α : Type} (key : Key) (dump : α → Json) (default : Json) (value : Option α) : Entry :=
  ⟨key, value.isSome, (value.map dump).getD default⟩

end Entry

/-- An object from its declared fields, in order, and its extra ones behind them. -/
def assemble (mode : Mode) (entries : List Entry) (extra : Assoc Json) : Json :=
  let kept := entries.filter fun e => mode.defaults || e.given
  let spelling (key : Key) : String := if mode.documentKeys then key.external else key.name
  let declared := kept.map fun e => (spelling e.key, e.value)
  .obj (Assoc.putAll declared (mode.anyFields extra))

end Storyboard
