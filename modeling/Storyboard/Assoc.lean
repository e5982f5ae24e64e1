/-!
# Ordered tables

A list of pairs that remembers the order in which its keys first arrived. A
write to a present key replaces the value where it stands; a new key goes to
the end. `mem_keys_put` and `get?_put` say what a write does to the keys and to
the look-up.
-/
namespace Storyboard

/-- Pairs in the order in which their keys first arrived. -/
abbrev Assoc (α : Type) := List (String × α)

namespace Assoc

variable {α β : Type}

def get? : Assoc α → String → Option α
  | [], _ => none
  | (k, v) :: rest, key => if k == key then some v else get? rest key

def has (table : Assoc α) (key : String) : Bool := (get? table key).isSome

def keys (table : Assoc α) : List String := table.map (·.1)

def put : Assoc α → String → α → Assoc α
  | [], key, value => [(key, value)]
  | (k, v) :: rest, key, value =>
    if k == key then (k, value) :: rest else (k, v) :: put rest key value

/-- Writes pairs one after the other: of a repeated key the first position and the
last value remain. -/
def putAll (table : Assoc α) (pairs : List (String × α)) : Assoc α :=
  pairs.foldl (fun t p => put t p.1 p.2) table

def ofPairs (pairs : List (String × α)) : Assoc α := putAll [] pairs

def mapValues (f : α → β) (table : Assoc α) : Assoc β := table.map fun p => (p.1, f p.2)

@[simp] theorem get?_nil (key : String) : get? ([] : Assoc α) key = none := rfl

theorem get?_put (table : Assoc α) (key other : String) (value : α) :
    get? (put table key value) other = if key = other then some value else get? table other := by
  induction table with
  | nil => simp [put, get?]
  | cons p rest ih =>
    obtain ⟨k, v⟩ := p
    by_cases hk : k = key
    · subst hk
      by_cases ho : k = other <;> simp [put, get?, ho]
    · by_cases ho : k = other
      · subst ho
        simp [put, get?, hk, Ne.symm hk]
      · simp [put, get?, hk, ho, ih]

theorem mem_keys_put (table : Assoc α) (key other : String) (value : α) :
    other ∈ keys (put table key value) ↔ other = key ∨ other ∈ keys table := by
  induction table with
  | nil => simp [put, keys]
  | cons p rest ih =>
    obtain ⟨k, v⟩ := p
    simp only [keys] at ih
    by_cases hk : k = key
    · subst hk; simp [put, keys]
    · simp only [put, keys, beq_iff_eq, hk, if_false, List.map_cons, List.mem_cons, ih]
      constructor <;> (rintro (h | h | h) <;> simp [h])

end Assoc

end Storyboard
