/-!
# Decoding

A character set is described by what the beginning of some bytes stands for. Text is
decoded one such step after the other; a step may leave a state for the next one.
-/
namespace Storyboard.Charset

/-- What the beginning of some bytes stands for, and how many bytes it takes. -/
inductive Step where
  | chars (text : List Char) (length : Nat)
  | fault (length : Nat)
  deriving DecidableEq, Repr

/-- One character. -/
def Step.char (code length : Nat) : Step := .chars [Char.ofNat code] length

/-- A character of a table, or a fault over some bytes. -/
def Step.ofTable (found : Option Char) (length faulty : Nat) : Step :=
  match found with
  | some c => .chars [c] length
  | none => .fault faulty

/-- The bytes break off within a character. -/
def Step.cut (bytes : List Nat) : Step := .fault bytes.length

/-- Decodes with at most `fuel` steps; `done` holds what was read, last first. None
stands for a fault. The state that is left comes with the text. -/
def decodeFrom {σ : Type} (step : σ → List Nat → Step × σ) (state : σ)
    (done : List (Option Char)) : Nat → List Nat → List (Option Char) × σ
  | _, [] => (done.reverse, state)
  | 0, _ => (done.reverse, state)
  | fuel + 1, bytes =>
    match step state bytes with
    | (.chars text n, state) =>
      decodeFrom step state (text.reverse.map some ++ done) fuel (bytes.drop n)
    | (.fault n, state) => decodeFrom step state (none :: done) fuel (bytes.drop n)

/-- Decodes with a step that leaves no state. -/
def decodeBy (step : List Nat → Step) (bytes : List Nat) : List (Option Char) :=
  (decodeFrom (fun (_ : Unit) rest => (step rest, ())) () [] bytes.length bytes).1

/-- The text with the replacement character for each fault. -/
def lossyText (decoded : List (Option Char)) : String :=
  String.ofList (decoded.map fun c => c.getD (Char.ofNat 0xFFFD))

/-- The text, if there is no fault. -/
def strictText? (decoded : List (Option Char)) : Option String :=
  (decoded.mapM id).map String.ofList

end Storyboard.Charset
